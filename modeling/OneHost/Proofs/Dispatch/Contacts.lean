import OneHost.Dispatch.Dispatcher

/-!
# What passes between a dispatcher and its surroundings

Any source, any carrier and any transformer can be made to write down what they are asked and what
they answer. `Delivers` says which records belong to which results, attempt by attempt and without
regard to the states in between; `send_recorded` says that every sending leaves such a record, and
that recording changes nothing else.
-/

namespace OneHost

variable {σ : Type}

/-- One contact of a dispatcher: the source answered, the transformer changed a request, or the
carrier was called. -/
inductive Contact where
  | handedOut (endpoint : Option SocketAddress)
  | changed (before after : Http.Request)
  | called (call : Dispatcher.Call)

namespace Contact

/-- The source's answers among some contacts, in order. -/
def endpoints (contacts : List Contact) : List (Option SocketAddress) :=
  contacts.filterMap fun
    | handedOut endpoint => some endpoint
    | _ => none

/-- The calls among some contacts, in order. -/
def calls (contacts : List Contact) : List Dispatcher.Call :=
  contacts.filterMap fun
    | called call => some call
    | _ => none

@[simp] theorem calls_append (first second : List Contact) :
    calls (first ++ second) = calls first ++ calls second :=
  List.filterMap_append

end Contact

/-- Surroundings that also write down their contacts. -/
def Surroundings.recorded (surroundings : Surroundings σ) :
    Surroundings (σ × List Contact) where
  next := fun (state, contacts) =>
    let (endpoint, state) := surroundings.next state
    (endpoint, state, contacts ++ [.handedOut endpoint])
  exchange := fun address request (state, contacts) =>
    let (outcome, state) := surroundings.exchange address request state
    (outcome, state, contacts ++ [.called ⟨address, request, outcome⟩])

namespace Dispatcher

/-- The dispatcher whose transformer also writes down what it does. -/
def recorded (dispatcher : Dispatcher σ) : Dispatcher (σ × List Contact) where
  target := dispatcher.target
  transform := fun request (state, contacts) =>
    let (changed, state) := dispatcher.transform request state
    (changed, state, contacts ++ [.changed request changed])

/-- The contacts of sending a request, in order. -/
def contacts (dispatcher : Dispatcher σ) (surroundings : Surroundings σ) (request : Http.Request)
    (state : σ) : List Contact :=
  (dispatcher.recorded.send surroundings.recorded request (state, [])).state.2

/-- A call that found no connection in time. -/
def Call.TimedOut (call : Call) : Prop :=
  ∃ error, call.outcome = .error error ∧ error.isConnectTimeout = true

/-! ## What follows from an attempt -/

/-- What an attempt can come to: it fails without a call, its call decides the result, or its call
found no connection in time. -/
inductive Tried (dispatcher : Dispatcher σ) (surroundings : Surroundings σ)
    (request : Http.Request) (attempted : List SocketAddress) (state : σ) : Prop where
  | failed {error : DispatchError} {events : List Event} {after : σ}
      (made : dispatcher.attempt surroundings request attempted state =
        (.error error, events, after))
  | settled {call : Call} {events : List Event} {after : σ}
      (made : dispatcher.attempt surroundings request attempted state = (.ok call, events, after))
      (final : ¬call.TimedOut)
  | timedOut {call : Call} {error : TransportError} {events : List Event} {after : σ}
      (made : dispatcher.attempt surroundings request attempted state = (.ok call, events, after))
      (outcome : call.outcome = .error error) (timeout : error.isConnectTimeout = true)

theorem tried (dispatcher : Dispatcher σ) (surroundings : Surroundings σ)
    (request : Http.Request) (attempted : List SocketAddress) (state : σ) :
    Tried dispatcher surroundings request attempted state := by
  cases made : dispatcher.attempt surroundings request attempted state with
  | mk result rest =>
    cases result with
    | error error => exact .failed made
    | ok call =>
      by_cases timedOut : call.TimedOut
      · rcases timedOut with ⟨error, outcome, timeout⟩
        exact .timedOut made outcome timeout
      · exact .settled made timedOut

section Tried

variable {dispatcher : Dispatcher σ} {surroundings : Surroundings σ} {request : Http.Request}
variable {left : Nat} {attempted : List SocketAddress} {state after : σ} {events : List Event}

theorem sendFrom_of_failed {error : DispatchError}
    (made : dispatcher.attempt surroundings request.copy attempted state =
      (.error error, events, after)) :
    dispatcher.sendFrom surroundings request (left + 1) attempted state =
      ⟨.error error, [], events, after⟩ := by
  simp only [sendFrom, made]

theorem sendFrom_of_settled (left : Nat) {call : Call}
    (made : dispatcher.attempt surroundings request.copy attempted state =
      (.ok call, events, after)) (final : ¬call.TimedOut) :
    ∃ more, (attempted = [] → more = []) ∧
      dispatcher.sendFrom surroundings request (left + 1) attempted state =
        ⟨call.result, [call], events ++ more, after⟩ := by
  simp only [sendFrom, made]
  cases outcome : call.outcome with
  | ok response =>
    refine ⟨_, ?_, rfl⟩
    rintro rfl
    rfl
  | error error =>
    have kind : error.isConnectTimeout = false := by simpa [Call.TimedOut, outcome] using final
    simp only [kind, Bool.false_eq_true, if_false]
    exact ⟨[], fun _ => rfl, by rw [List.append_nil]⟩

theorem sendFrom_of_timedOut {call : Call} {error : TransportError}
    (made : dispatcher.attempt surroundings request.copy attempted state =
      (.ok call, events, after))
    (outcome : call.outcome = .error error) (timeout : error.isConnectTimeout = true) :
    let rest := dispatcher.sendFrom surroundings request left (attempted ++ [call.address]) after
    dispatcher.sendFrom surroundings request (left + 1) attempted state =
      ⟨rest.result, call :: rest.calls,
        events ++
          .connectTimedOut call.address (attempted.length + 1) error.message :: rest.events,
        rest.state⟩ := by
  simp only [sendFrom, made, outcome, timeout, if_true]

theorem sendOnce_of_failed {error : DispatchError}
    (made : dispatcher.attempt surroundings request [] state = (.error error, events, after)) :
    dispatcher.sendOnce surroundings request state = ⟨.error error, [], events, after⟩ := by
  simp only [sendOnce, made]

theorem sendOnce_of_called {call : Call}
    (made : dispatcher.attempt surroundings request [] state = (.ok call, events, after)) :
    dispatcher.sendOnce surroundings request state = ⟨call.result, [call], events, after⟩ := by
  simp only [sendOnce, made]

end Tried

/-! ## One attempt -/

/-- The contacts of one attempt, and what comes of it. -/
inductive Attempts (target : Http.Target) (request : Http.Request)
    (attempted : List SocketAddress) : List Contact → Except DispatchError Call → Prop where
  | noEndpoint :
      Attempts target request attempted [.handedOut none]
        (.error (.noHealthyEndpoint target.hostname attempted))
  | refused (address : SocketAddress) (changed : Http.Request) (error : Http.RequestError)
      (refusal : target.retarget address.ip changed = .error error) :
      Attempts target request attempted
        [.handedOut (some address), .changed request changed] (.error (.request error))
  | called (call : Call) (changed : Http.Request)
      (aimed : target.retarget call.address.ip changed = .ok call.request) :
      Attempts target request attempted
        [.handedOut (some call.address), .changed request changed, .called call] (.ok call)

theorem attempt_recorded (dispatcher : Dispatcher σ) (surroundings : Surroundings σ)
    (request : Http.Request) (attempted : List SocketAddress) (state : σ)
    (earlier : List Contact) :
    ∃ contacts,
      Attempts dispatcher.target request attempted contacts
        (dispatcher.attempt surroundings request attempted state).1 ∧
      dispatcher.recorded.attempt surroundings.recorded request attempted (state, earlier) =
        ((dispatcher.attempt surroundings request attempted state).1,
          (dispatcher.attempt surroundings request attempted state).2.1,
          (dispatcher.attempt surroundings request attempted state).2.2, earlier ++ contacts) := by
  cases asked : surroundings.next state with
  | mk endpoint state =>
    cases endpoint with
    | none =>
      refine ⟨[.handedOut none], ?_, ?_⟩
      · simp only [attempt, asked]
        exact .noEndpoint
      · simp [attempt, Surroundings.recorded, recorded, asked]
    | some address =>
      cases hook : dispatcher.transform request state with
      | mk changed state =>
        cases aim : dispatcher.target.retarget address.ip changed with
        | error error =>
          refine ⟨[.handedOut (some address), .changed request changed], ?_, ?_⟩
          · simp only [attempt, asked, hook, aim]
            exact .refused address changed error aim
          · simp [attempt, Surroundings.recorded, recorded, asked, hook, aim]
        | ok aimed =>
          cases exchanged : surroundings.exchange address aimed state with
          | mk outcome state =>
            refine ⟨[.handedOut (some address), .changed request changed,
              .called ⟨address, aimed, outcome⟩], ?_, ?_⟩
            · simp only [attempt, asked, hook, aim, exchanged]
              exact .called ⟨address, aimed, outcome⟩ changed aim
            · simp [attempt, Surroundings.recorded, recorded, asked, hook, aim, exchanged]

/-! ## All attempts -/

/-- The contacts of sending a request with some attempts left, and the result. An attempt is
followed by another one only if it found no connection in time. -/
inductive Delivers (target : Http.Target) (request : Http.Request) :
    Nat → List SocketAddress → List Contact → Except DispatchError Http.Response → Prop where
  | exhausted (attempted : List SocketAddress) :
      Delivers target request 0 attempted []
        (.error (.retriesExhausted attempted request.method request.uri))
  | failed {left : Nat} {attempted : List SocketAddress} {contacts : List Contact}
      {error : DispatchError}
      (attempt : Attempts target request.copy attempted contacts (.error error)) :
      Delivers target request (left + 1) attempted contacts (.error error)
  | settled {left : Nat} {attempted : List SocketAddress} {contacts : List Contact} {call : Call}
      (attempt : Attempts target request.copy attempted contacts (.ok call))
      (final : ¬call.TimedOut) :
      Delivers target request (left + 1) attempted contacts call.result
  | again {left : Nat} {attempted : List SocketAddress} {contacts more : List Contact}
      {call : Call} {result : Except DispatchError Http.Response}
      (attempt : Attempts target request.copy attempted contacts (.ok call))
      (timedOut : call.TimedOut)
      (rest : Delivers target request left (attempted ++ [call.address]) more result) :
      Delivers target request (left + 1) attempted (contacts ++ more) result

theorem Attempts.calls_eq {target : Http.Target} {request : Http.Request}
    {attempted : List SocketAddress} {contacts : List Contact} {result : Except DispatchError Call}
    (attempt : Attempts target request attempted contacts result) :
    Contact.calls contacts = result.toOption.toList := by
  cases attempt <;> rfl

/-- Recording changes neither what is done nor what comes of it, and the record is one that belongs
to the result. -/
theorem sendFrom_recorded (dispatcher : Dispatcher σ) (surroundings : Surroundings σ)
    (request : Http.Request) (left : Nat) (attempted : List SocketAddress) (state : σ)
    (earlier : List Contact) :
    ∃ contacts,
      Delivers dispatcher.target request left attempted contacts
        (dispatcher.sendFrom surroundings request left attempted state).result ∧
      (dispatcher.sendFrom surroundings request left attempted state).calls =
        Contact.calls contacts ∧
      (dispatcher.recorded.sendFrom surroundings.recorded request left attempted
        (state, earlier)).state =
        ((dispatcher.sendFrom surroundings request left attempted state).state,
          earlier ++ contacts) := by
  induction left generalizing attempted state earlier with
  | zero => exact ⟨[], .exhausted attempted, rfl, by simp [sendFrom]⟩
  | succ left ih =>
    obtain ⟨contacts, attempts, same⟩ :=
      attempt_recorded dispatcher surroundings request.copy attempted state earlier
    cases dispatcher.tried surroundings request.copy attempted state with
    | failed made =>
      rw [made] at attempts same
      rw [sendFrom_of_failed made, sendFrom_of_failed same]
      exact ⟨contacts, .failed attempts, attempts.calls_eq.symm, rfl⟩
    | settled made final =>
      rw [made] at attempts same
      obtain ⟨_, _, settled⟩ := sendFrom_of_settled left made final
      obtain ⟨_, _, recorded⟩ := sendFrom_of_settled left same final
      rw [settled, recorded]
      exact ⟨contacts, .settled attempts final, attempts.calls_eq.symm, rfl⟩
    | @timedOut call _ _ after made outcome timeout =>
      rw [made] at attempts same
      have calls : Contact.calls contacts = [call] := attempts.calls_eq
      obtain ⟨more, delivers, restCalls, restState⟩ :=
        ih (attempted ++ [call.address]) after (earlier ++ contacts)
      rw [sendFrom_of_timedOut made outcome timeout, sendFrom_of_timedOut same outcome timeout]
      refine ⟨contacts ++ more, .again attempts ⟨_, outcome, timeout⟩ delivers, ?_, ?_⟩
      · simp [restCalls, calls]
      · simp [restState]

/-- Sending with a record is the same sending. Its record belongs to its result, and the calls that
the delivery lists are those that the carrier has seen. -/
theorem send_recorded (dispatcher : Dispatcher σ) (surroundings : Surroundings σ)
    (request : Http.Request) (state : σ) :
    Delivers dispatcher.target request maxAttempts []
        (dispatcher.contacts surroundings request state)
        (dispatcher.send surroundings request state).result ∧
      (dispatcher.send surroundings request state).calls =
        Contact.calls (dispatcher.contacts surroundings request state) ∧
      (dispatcher.recorded.send surroundings.recorded request (state, [])).state =
        ((dispatcher.send surroundings request state).state,
          dispatcher.contacts surroundings request state) := by
  obtain ⟨contacts, delivers, calls, recordedState⟩ :=
    sendFrom_recorded dispatcher surroundings request maxAttempts [] state []
  have record : dispatcher.contacts surroundings request state = contacts := by
    simp [Dispatcher.contacts, send, recordedState]
  rw [record]
  exact ⟨delivers, calls, recordedState⟩

/-! ## What contacts keep -/

/-- Every contact of a dispatcher keeps something that holds of the calls so far and the state. -/
structure Keeps (dispatcher : Dispatcher σ) (surroundings : Surroundings σ)
    (motive : List Call → σ → Prop) : Prop where
  next : ∀ {calls state}, motive calls state → motive calls (surroundings.next state).2
  transform : ∀ {calls state} request, motive calls state →
    motive calls (dispatcher.transform request state).2
  exchange : ∀ {calls state} address request, motive calls state →
    motive (calls ++ [⟨address, request, (surroundings.exchange address request state).1⟩])
      (surroundings.exchange address request state).2

namespace Keeps

variable {dispatcher : Dispatcher σ} {surroundings : Surroundings σ}
variable {motive : List Call → σ → Prop} {calls : List Call} {state : σ}

theorem attempt (keeps : Keeps dispatcher surroundings motive) (request : Http.Request)
    (attempted : List SocketAddress) (holds : motive calls state) :
    motive
      (calls ++ (dispatcher.attempt surroundings request attempted state).1.toOption.toList)
      (dispatcher.attempt surroundings request attempted state).2.2 := by
  have handedOut := keeps.next holds
  unfold Dispatcher.attempt
  split
  · rename_i after asked
    rw [asked] at handedOut
    simpa [Except.toOption] using handedOut
  · rename_i address after asked
    rw [asked] at handedOut
    have changed := keeps.transform request handedOut
    simp only
    split
    · simpa [Except.toOption] using changed
    · rename_i aimed _
      simpa [Except.toOption] using keeps.exchange address aimed changed

/-- What every contact keeps, a sending keeps as a whole. -/
theorem sendFrom (keeps : Keeps dispatcher surroundings motive) (request : Http.Request)
    (left : Nat) (attempted : List SocketAddress) (holds : motive calls state) :
    motive (calls ++ (dispatcher.sendFrom surroundings request left attempted state).calls)
      (dispatcher.sendFrom surroundings request left attempted state).state := by
  induction left generalizing attempted calls state with
  | zero => simpa [Dispatcher.sendFrom] using holds
  | succ left ih =>
    have kept := keeps.attempt request.copy attempted holds
    cases dispatcher.tried surroundings request.copy attempted state with
    | failed made =>
      rw [made] at kept
      rw [sendFrom_of_failed made]
      exact kept
    | settled made final =>
      rw [made] at kept
      rcases sendFrom_of_settled left made final with ⟨_, _, settled⟩
      rw [settled]
      exact kept
    | @timedOut call _ _ _ made outcome timeout =>
      rw [made] at kept
      rw [sendFrom_of_timedOut made outcome timeout]
      simpa [Except.toOption] using ih (attempted ++ [call.address]) kept

theorem send (keeps : Keeps dispatcher surroundings motive) (request : Http.Request)
    (holds : motive [] state) :
    motive (dispatcher.send surroundings request state).calls
      (dispatcher.send surroundings request state).state := by
  simpa [Dispatcher.send] using keeps.sendFrom request maxAttempts [] holds

end Keeps

end Dispatcher

end OneHost
