import OneHost.Proofs.Connection.Records

/-!
# Answers that come in order

The other end of a connection answers the requests one after the other: first comes the head of an
answer, then its body, and only then the next head. As long as this is so, a transport knows how
many answers have come through each of its connections, and the answer that a send receives is the
next one after the exchanges that its connection had carried before.
-/

namespace OneHost.Connection

/-- The answers that have come through a connection: those that came whole, and the head of one that
has begun to come. -/
structure Arrivals where
  whole : List Http.Response := []
  begun : Option Http.Response := none

/-- Take note of an input. -/
def Arrivals.note (connection : Nat) (arrivals : Arrivals) : Input → Arrivals
  | .head line response =>
    if line = connection then { arrivals with begun := some response } else arrivals
  | .body line body =>
    if line = connection then
      match arrivals.begun with
      | some head => { whole := arrivals.whole ++ [{ head with body }] }
      | none => arrivals
    else arrivals
  | _ => arrivals

/-- What has come through a connection. -/
def arrivals (connection : Nat) (inputs : List Input) : Arrivals :=
  inputs.foldl (Arrivals.note connection) {}

/-- A head comes when no other answer is on its way and a request waits for its answer; a body comes
after its head. -/
def Due (inputs : List Input) (effects : List Effect) : Input → Prop
  | .head line _ => (arrivals line inputs).begun = none ∧
      (arrivals line inputs).whole.length < (writes line effects).length
  | .body line _ => (arrivals line inputs).begun.isSome
  | _ => True

/-- Every connection answers the requests that are written to it in their order. -/
def Transport.InOrder (start : Transport) (inputs : List Input) : Prop :=
  ∀ before input, before ++ [input] <+: inputs → Due before (start.run before).2 input

theorem Transport.inOrder_concat {start : Transport} {inputs : List Input} {input : Input} :
    start.InOrder (inputs ++ [input]) ↔
      start.InOrder inputs ∧ Due inputs (start.run inputs).2 input := by
  simp only [InOrder, List.prefix_concat_iff]
  constructor
  · intro inOrder
    exact ⟨fun before other isPrefix => inOrder before other (.inr isPrefix),
      inOrder inputs input (.inl rfl)⟩
  · rintro ⟨inOrder, due⟩ before other (equal | isPrefix)
    · obtain ⟨rfl, same⟩ := List.append_inj' equal rfl
      obtain rfl := List.singleton_inj.mp same
      exact due
    · exact inOrder before other isPrefix

instance (inputs : List Input) (effects : List Effect) (input : Input) :
    Decidable (Due inputs effects input) :=
  match input with
  | .head line _ => inferInstanceAs (Decidable (_ ∧ (arrivals line inputs).whole.length < _))
  | .body line _ => inferInstanceAs (Decidable ((arrivals line inputs).begun.isSome = true))
  | .send .. | .ready .. | .notReady .. | .connected .. | .connectFailed .. | .connectTimedOut ..
  | .unusable .. | .presented .. | .handshakeFailed .. | .opened .. | .openFailed .. | .broken ..
  | .close .. | .cancel .. | .evict .. | .elapse .. => isTrue trivial

theorem Transport.inOrder_iff {start : Transport} {inputs : List Input} :
    start.InOrder inputs ↔ ∀ position : Fin inputs.length,
      Due (inputs.take position) (start.run (inputs.take position)).2 inputs[position] := by
  constructor
  · intro inOrder position
    apply inOrder
    rw [Fin.getElem_fin, List.take_append_getElem position.isLt]
    exact List.take_prefix _ _
  · intro due before input isPrefix
    obtain ⟨rest, rfl⟩ := isPrefix
    have bound : before.length < (before ++ [input] ++ rest).length := by simp
    simpa using due ⟨before.length, bound⟩

instance (start : Transport) (inputs : List Input) : Decidable (start.InOrder inputs) :=
  decidable_of_iff _ Transport.inOrder_iff.symm

/-! ## One input more -/

/-- The connection through which something comes. -/
def Input.arrivesAt? : Input → Option Nat
  | .head line _ | .body line _ => some line
  | _ => none

variable {inputs : List Input} {input : Input} {connection : Nat}

theorem arrivals_concat (connection : Nat) (inputs : List Input) (input : Input) :
    arrivals connection (inputs ++ [input]) = (arrivals connection inputs).note connection input :=
  List.foldl_concat ..

theorem arrivals_elsewhere (elsewhere : input.arrivesAt? ≠ some connection) :
    arrivals connection (inputs ++ [input]) = arrivals connection inputs := by
  rw [arrivals_concat]
  cases input with
  | head line response | body line _ =>
    have different : line ≠ connection := fun same => elsewhere (congrArg some same)
    simp [Arrivals.note, different]
  | _ => rfl

theorem arrivals_head (connection : Nat) (inputs : List Input) (response : Http.Response) :
    arrivals connection (inputs ++ [.head connection response]) =
      { arrivals connection inputs with begun := some response } := by
  simp [arrivals_concat, Arrivals.note]

theorem arrivals_body {head : Http.Response} (body : Bytes)
    (begun : (arrivals connection inputs).begun = some head) :
    arrivals connection (inputs ++ [.body connection body]) =
      { whole := (arrivals connection inputs).whole ++ [{ head with body }] } := by
  simp [arrivals_concat, Arrivals.note, begun]

theorem whole_prefix (connection : Nat) (inputs : List Input) (input : Input) :
    (arrivals connection inputs).whole <+: (arrivals connection (inputs ++ [input])).whole := by
  rw [arrivals_concat]
  cases input with
  | head line response =>
    rw [Arrivals.note]
    split <;> exact List.prefix_rfl
  | body line body =>
    rw [Arrivals.note]
    split
    · split
      · exact List.prefix_append _ _
      · exact List.prefix_rfl
    · exact List.prefix_rfl
  | _ => exact List.prefix_rfl

theorem getElem?_whole_concat {position : Nat} {response : Http.Response}
    (found : (arrivals connection inputs).whole[position]? = some response) (input : Input) :
    (arrivals connection (inputs ++ [input])).whole[position]? = some response := by
  obtain ⟨rest, grown⟩ := whole_prefix connection inputs input
  obtain ⟨bound, _⟩ := List.getElem?_eq_some_iff.mp found
  rw [← grown, List.getElem?_append_left bound, found]

namespace Transport

variable {transport after : Transport} {sending : Sending} {effects more : List Effect}

/-- How many answers have come whole through a connection, as the transport remembers it. -/
def answered (transport : Transport) (connection : Nat) : Nat :=
  (transport.lines[connection]?.map (·.answered)).getD 0

theorem Carries.answered_eq {exchanges : Nat} {address : SocketAddress}
    {pending : List Http.Request}
    (carries : transport.Carries connection address exchanges pending) :
    transport.answered connection = exchanges := by
  obtain ⟨line, found, carries⟩ := carries
  rw [answered, found]
  exact carries.answered

theorem Carries.complete {exchanges : Nat} {address : SocketAddress}
    (carries : transport.Carries connection address exchanges []) :
    (transport.written connection).length ≤ transport.answered connection := by
  rw [carries.answered_eq, carries.length_written]
  exact Nat.le_refl _

theorem answered_modifyLine {change : Line → Line} {line : Nat}
    (same : line = connection → ∀ line : Line, (change line).answered = line.answered) :
    (transport.modifyLine line change).answered connection = transport.answered connection :=
  congrArg (·.getD 0) (map_modifyLine same)

theorem answered_noteAnswer
    (due : transport.answered connection < (transport.written connection).length) :
    (transport.modifyLine connection (·.noteAnswer)).answered connection =
      transport.answered connection + 1 := by
  rw [answered, lines_modifyLine, if_pos rfl]
  cases found : transport.lines[connection]? with
  | none => simp [written, found] at due
  | some there =>
    have dueThere : there.answered < there.written.length := by
      simpa [answered, written, found] using due
    simp [answered, found, Line.noteAnswer, dueThere]

theorem answered_opened (transport : Transport) (sending : Sending) (secured : Option Secured)
    (connection : Nat) :
    (transport.opened sending secured).1.answered connection = transport.answered connection := by
  have lines : (transport.opened sending secured).1.answered connection =
      answered { transport with
        lines := transport.lines ++ [{ address := sending.address, secured }] } connection :=
    answered_modifyLine fun _ _ => rfl
  exact lines.trans (getD_newLine rfl transport connection)

/-- Nothing but the body of an answer changes how many answers have come. -/
theorem Transition.answered_eq (transition : Transition transport input after more)
    (elsewhere : ∀ body, input ≠ .body connection body) :
    after.answered connection = transport.answered connection := by
  cases transition with
  | missed _ | refused _ _ | headed _ _ _ | cancelled _ | elapsed _ | proceeded _ _ | failed _ _
    | evicted _ => rfl
  | sent _ _ acquires | again _ _ acquires =>
    rw [Transport.answered, acquires.lines_eq, Transport.answered]
  | wrote _ _ | brokeOff _ _ | broke _ | closed _ => exact answered_modifyLine fun _ _ => rfl
  | opened _ _ => exact answered_opened ..
  | answered body _ _ | unclaimed body _ =>
    exact answered_modifyLine fun own => absurd rfl (own ▸ elsewhere body)

end Transport

/-! ## What a transport knows of the answers -/

/-- A send waits for a head, or has it. -/
def Sending.Hears (sending : Sending) (inputs : List Input) : Prop :=
  match sending.stage with
  | .waiting checkout => (arrivals checkout.connection inputs).begun = none
  | .receiving checkout head => (arrivals checkout.connection inputs).begun = some head
  | _ => True

theorem Sending.Hears.elsewhere {sending : Sending} (hears : sending.Hears inputs)
    (elsewhere : ∀ checkout, sending.stage.checkout? = some checkout →
      input.arrivesAt? ≠ some checkout.connection) : sending.Hears (inputs ++ [input]) := by
  unfold Hears at hears ⊢
  cases stage : sending.stage with
  | waiting checkout | receiving checkout head =>
    rw [stage] at hears
    have holds : sending.stage.checkout? = some checkout := congrArg Stage.checkout? stage
    have same : arrivals checkout.connection (inputs ++ [input]) =
      arrivals checkout.connection inputs := arrivals_elsewhere (elsewhere checkout holds)
    exact (congrArg Arrivals.begun same).trans hears
  | readying _ | dialling | securing | opening _ => trivial

namespace Transport

variable {transport after : Transport} {sending : Sending} {effects more : List Effect}

/-- A transport knows how many answers have come through each connection, and its sends know whether
theirs have begun to come. -/
structure Heard (inputs : List Input) (transport : Transport) : Prop where
  whole : ∀ connection, (arrivals connection inputs).whole.length = transport.answered connection
  begun : ∀ connection, (arrivals connection inputs).begun.isSome →
    transport.answered connection < (transport.written connection).length
  sends : ∀ sending ∈ transport.sends, sending.Hears inputs

namespace Heard

theorem of_make (channel : Channel) (connectTimeout : Duration) (limits : Limits) :
    Heard [] (make channel connectTimeout limits) where
  whole _ := rfl
  begun _ begun := by simp [arrivals] at begun
  sends sending among := by simp [make] at among

/-- Nothing is on its way through a connection all of whose requests have been answered. -/
theorem begun_eq_none (heard : Heard inputs transport)
    (complete : (transport.written connection).length ≤ transport.answered connection) :
    (arrivals connection inputs).begun = none := by
  rw [← Option.not_isSome_iff_eq_none]
  exact fun begun => Nat.not_lt_of_le complete (heard.begun connection begun)

/-- Who does not hold a connection does not hear what comes through it. -/
theorem hears_unheld {line : Nat} (heard : Heard inputs transport)
    (arrives : input.arrivesAt? = some line)
    (among : sending ∈ transport.sends) (unheld : sending.connection? ≠ some line) :
    sending.Hears (inputs ++ [input]) := by
  refine (heard.sends sending among).elsewhere fun checkout holds own => unheld ?_
  rw [connection?_eq_some holds, ← arrives, own]

/-- Something other than an answer happens. -/
theorem silent (heard : Heard inputs transport) (wellFormed : transport.WellFormed)
    (transition : Transition transport input after more) (noArrival : input.arrivesAt? = none) :
    Heard (inputs ++ [input]) after := by
  have same (connection : Nat) :
      arrivals connection (inputs ++ [input]) = arrivals connection inputs :=
    arrivals_elsewhere (by simp [noArrival])
  have sameAnswered (connection : Nat) :
      after.answered connection = transport.answered connection :=
    transition.answered_eq fun body isBody => by simp [isBody, Input.arrivesAt?] at noArrival
  constructor
  case whole =>
    intro connection
    rw [same, sameAnswered]
    exact heard.whole connection
  case begun =>
    intro connection
    rw [same, sameAnswered, transition.written wellFormed, List.length_append]
    exact fun begun => Nat.lt_add_right _ (heard.begun connection begun)
  case sends =>
    have others : ∀ other ∈ transport.sends, other.Hears (inputs ++ [input]) :=
      fun other among => (heard.sends other among).elsewhere (by simp [noArrival])
    have remaining (id : Nat) : ∀ other ∈ (transport.withoutSend id).sends,
        other.Hears (inputs ++ [input]) :=
      fun other among => others other (List.mem_of_mem_filter among)
    cases transition with
    | missed _ | refused _ _ | unclaimed _ _ | broke _ | closed _ | evicted _ | elapsed _ =>
      exact others
    | failed _ _ | answered _ _ _ | brokeOff _ _ | cancelled _ => exact remaining _
    | sent _ _ acquires | again _ _ acquires =>
      cases acquires <;> exact forall_mem_enter (remaining _) trivial
    | proceeded _ proceeds => cases proceeds <;> exact forall_mem_enter (remaining _) trivial
    | @wrote sending checkout among readying =>
      have holds : sending.stage.checkout? = some checkout := congrArg Stage.checkout? readying
      have carries := wellFormed.held sending among checkout holds
      rw [Sending.pending, readying] at carries
      have nothing := heard.begun_eq_none carries.complete
      exact forall_mem_enter (remaining _) ((congrArg _ (same _)).trans nothing)
    | opened among opening =>
      refine forall_mem_enter (remaining _) ((congrArg _ (same _)).trans (heard.begun_eq_none ?_))
      simp [written, Checkout.fresh]
    | headed _ _ _ => contradiction

theorem head {line : Nat} {response : Http.Response} (heard : Heard inputs transport)
    (wellFormed : transport.WellFormed)
    (transition : Transition transport (.head line response) after more)
    (free : (arrivals line inputs).begun = none)
    (due : transport.answered line < (transport.written line).length) :
    Heard (inputs ++ [.head line response]) after := by
  have same (connection : Nat) (different : line ≠ connection) :
      arrivals connection (inputs ++ [.head line response]) = arrivals connection inputs :=
    arrivals_elsewhere fun own => different (Option.some.inj own)
  have sameAnswered (connection : Nat) :
      after.answered connection = transport.answered connection :=
    transition.answered_eq nofun
  constructor
  case whole =>
    intro connection
    rw [sameAnswered, ← heard.whole]
    by_cases own : line = connection
    · subst own
      rw [arrivals_head]
    · rw [same connection own]
  case begun =>
    intro connection begun
    rw [sameAnswered, transition.written wellFormed, List.length_append]
    apply Nat.lt_add_right
    by_cases own : line = connection
    · exact own ▸ due
    · rw [same connection own] at begun
      exact heard.begun connection begun
  case sends =>
    cases transition with
    | missed misses =>
      intro sending among
      by_cases holds : sending.connection? = some line
      · have isHolder := wellFormed.holder?_eq among holds
        have hears := heard.sends sending among
        unfold Sending.Hears at hears ⊢
        cases stage : sending.stage with
        | waiting checkout => exact absurd stage (misses sending isHolder checkout)
        | receiving checkout head =>
          -- Its answer has begun to come already, so no other head is due.
          have own : checkout.connection = line := by
            simpa [Sending.connection?, stage, Stage.checkout?] using holds
          rw [stage] at hears
          simp only [own, free] at hears
          contradiction
        | readying _ | dialling | securing | opening _ => trivial
      · exact heard.hears_unheld rfl among holds
    | @headed sending checkout response among waiting =>
      have holds : sending.stage.checkout? = some checkout := congrArg Stage.checkout? waiting
      have aside := wellFormed.aside among (connection?_eq_some holds)
      refine forall_mem_enter (fun other amongOthers => ?_) ?_
      · exact heard.hears_unheld rfl (List.mem_of_mem_filter amongOthers)
          fun own => aside.1 (mem_inHand.mpr ⟨other, amongOthers, own⟩)
      · exact congrArg Arrivals.begun (arrivals_head _ inputs response)
    | proceeded _ proceeds => cases proceeds
    | failed _ fails => cases fails

/-- Whoever holds a connection through which an answer has begun to come has its head. -/
theorem receiving_of_begun {checkout : Checkout Nat} (heard : Heard inputs transport)
    (wellFormed : transport.WellFormed) (among : sending ∈ transport.sends)
    (holds : sending.stage.checkout? = some checkout)
    (begun : (arrivals checkout.connection inputs).begun.isSome) :
    ∃ head, sending.stage = .receiving checkout head := by
  have hears := heard.sends sending among
  have carries := wellFormed.held sending among checkout holds
  unfold Sending.Hears at hears
  rw [Sending.pending] at carries
  cases stage : sending.stage with
  | readying other =>
    rw [stage] at carries
    have nothing := heard.begun_eq_none carries.complete
    simp [nothing] at begun
  | waiting other =>
    obtain rfl : other = checkout := by simpa [stage, Stage.checkout?] using holds
    rw [stage] at hears
    simp only [hears] at begun
    contradiction
  | receiving other head =>
    obtain rfl : other = checkout := by simpa [stage, Stage.checkout?] using holds
    exact ⟨head, rfl⟩
  | dialling | securing | opening _ => simp [stage, Stage.checkout?] at holds

/-- A body that comes in order is noted, and only the send that it is meant for hears it. -/
theorem noted {line : Nat} {body : Bytes} (heard : Heard inputs transport)
    (wellFormed : transport.WellFormed)
    (transition : Transition transport (.body line body) after more)
    (begun : (arrivals line inputs).begun.isSome) :
    after.lines = (transport.modifyLine line (·.noteAnswer)).lines ∧
      ∀ other ∈ after.sends, other ∈ transport.sends ∧ other.connection? ≠ some line := by
  cases transition with
  | missed misses =>
    obtain ⟨holder, holds, notReceiving⟩ := misses
    obtain ⟨among, checkout, found, rfl⟩ := holder?_eq_some holds
    obtain ⟨head, receiving⟩ := heard.receiving_of_begun wellFormed among found begun
    exact absurd receiving (notReceiving checkout head)
  | @answered sending checkout head body among receiving =>
    have holds : sending.stage.checkout? = some checkout := congrArg Stage.checkout? receiving
    have aside := wellFormed.aside among (connection?_eq_some holds)
    refine ⟨rfl, fun other amongOthers => ⟨List.mem_of_mem_filter amongOthers, fun own => ?_⟩⟩
    exact aside.1 (mem_inHand.mpr ⟨other, amongOthers, own⟩)
  | unclaimed body unheld =>
    exact ⟨rfl, fun other among => ⟨among, fun own => unheld (mem_inHand.mpr ⟨other, among, own⟩)⟩⟩
  | proceeded _ proceeds => cases proceeds
  | failed _ fails => cases fails

theorem body {line : Nat} {body : Bytes} (heard : Heard inputs transport)
    (wellFormed : transport.WellFormed)
    (transition : Transition transport (.body line body) after more)
    (begun : (arrivals line inputs).begun.isSome) :
    Heard (inputs ++ [.body line body]) after := by
  obtain ⟨head, isHead⟩ := Option.isSome_iff_exists.mp begun
  obtain ⟨lines, others⟩ := heard.noted wellFormed transition begun
  have same (connection : Nat) (different : line ≠ connection) :
      arrivals connection (inputs ++ [.body line body]) = arrivals connection inputs :=
    arrivals_elsewhere fun own => different (Option.some.inj own)
  have sameAnswered (connection : Nat) (different : line ≠ connection) :
      after.answered connection = transport.answered connection :=
    transition.answered_eq fun _ isBody => different (Input.body.inj isBody).1
  constructor
  case whole =>
    intro connection
    by_cases own : line = connection
    · subst own
      have answeredNow : after.answered line = transport.answered line + 1 := by
        rw [answered, lines]
        exact answered_noteAnswer (heard.begun line begun)
      rw [arrivals_body body isHead, List.length_append, heard.whole, answeredNow]
      rfl
    · rw [same connection own, sameAnswered connection own]
      exact heard.whole connection
  case begun =>
    intro connection begunNow
    by_cases own : line = connection
    · subst own
      rw [arrivals_body body isHead] at begunNow
      contradiction
    · rw [same connection own] at begunNow
      rw [sameAnswered connection own, transition.written wellFormed, List.length_append]
      exact Nat.lt_add_right _ (heard.begun connection begunNow)
  case sends =>
    intro other among
    obtain ⟨amongBefore, unheld⟩ := others other among
    exact heard.hears_unheld rfl amongBefore unheld

theorem step (heard : Heard inputs transport) (wellFormed : transport.WellFormed)
    (recorded : Recorded inputs effects transport) (due : Due inputs effects input)
    (transition : Transition transport input after more) : Heard (inputs ++ [input]) after := by
  cases input with
  | head line response =>
    obtain ⟨free, requested⟩ := due
    rw [heard.whole, recorded.length_writes] at requested
    exact heard.head wellFormed transition free requested
  | body line body => exact heard.body wellFormed transition due
  | _ => exact heard.silent wellFormed transition rfl

theorem of_run {channel : Channel} {connectTimeout : Duration} {limits : Limits}
    {inputs : List Input} (inOrder : (make channel connectTimeout limits).InOrder inputs) :
    Heard inputs ((make channel connectTimeout limits).run inputs).1 := by
  revert inOrder
  refine run_induction (motive := fun inputs _ transport =>
    (make channel connectTimeout limits).InOrder inputs → Heard inputs transport)
    (fun _ => .of_make ..) (fun ih stepped inOrder => ?_) inputs
  obtain ⟨inOrder, due⟩ := inOrder_concat.mp inOrder
  exact (ih inOrder).step ((WellFormed.of_make ..).run _) (.of_run ..) due (.of_step stepped)

end Heard

end Transport

end OneHost.Connection
