import OneHost.Dispatch.Configured
import OneHost.Pool.Configured
import OneHost.Proofs.Connection.Transitions
import OneHost.Proofs.Dispatch.Retry
import OneHost.Proofs.Http.Aiming
import OneHost.Proofs.Pool.Tending

/-!
# What aimed requests name

A dispatcher aims each request at the address of an endpoint and at the port of its own host. A pool
of the same settings has given this port to every endpoint that it has made, so the socket address
in the URI is the one that is called.
-/

namespace OneHost

/-! ## Transports -/

namespace Connection.Transport

variable {transport after : Transport} {input : Input} {inputs : List Input}
variable {effects : List Effect} {id : Nat} {error : Http.RequestError}

/-- A request is refused only for want of a form in which it could be written. -/
theorem Transition.refused_of_finished (transition : Transition transport input after effects)
    (finished : .finished id (.error (.request error)) ∈ effects) :
    ∃ address request, input = .send id address request ∧ request.originForm = .error error := by
  cases transition with
  | @refused _ address request _ _ noForm =>
    cases List.mem_singleton.mp finished
    exact ⟨address, request, rfl, noForm⟩
  | sent _ _ acquires | again _ _ acquires => cases acquires <;> simp at finished
  | proceeded _ proceeds => cases proceeds <;> simp at finished
  | failed _ fails => cases fails <;> simp at finished
  | missed _ | wrote _ _ | opened _ _ | headed _ _ _ | answered _ _ _ | unclaimed _ _
    | brokeOff _ _ | broke _ | closed _ | cancelled _ | evicted _ | elapsed _ =>
    simp [writeTo, Transport.opened] at finished

/-- By induction on the inputs: each effect comes from one of the steps. -/
theorem refused_of_run (finished : .finished id (.error (.request error)) ∈
      (transport.run inputs).2) :
    ∃ address request, .send id address request ∈ inputs ∧
      request.originForm = .error error := by
  induction inputs generalizing transport with
  | nil => contradiction
  | cons input rest ih =>
    cases List.mem_append.mp finished with
    | inl now =>
      obtain ⟨address, request, rfl, noForm⟩ :=
        (transition_step transport input).refused_of_finished now
      exact ⟨address, request, List.mem_cons_self, noForm⟩
    | inr later =>
      obtain ⟨address, request, asked, noForm⟩ := ih later
      exact ⟨address, request, List.mem_cons_of_mem input asked, noForm⟩

end Connection.Transport

/-! ## Endpoints -/

namespace Pool

variable {target : Http.Target} {pool after : Pool}

/-- The endpoints of a pool are at the port of its host. -/
structure Addressed (target : Http.Target) (pool : Pool) : Prop where
  host : pool.settings.prober.target = target
  endpoints : ∀ position endpoint, pool.roster.get? position = some endpoint →
    endpoint.address.port = target.port

namespace Addressed

theorem of_make (settings : Settings) : Addressed settings.prober.target (make settings) where
  host := rfl
  endpoints position endpoint found := by
    simp [make, Roster.get?] at found

theorem of_continues (addressed : Addressed target pool)
    (settings : after.settings = pool.settings) (continues : pool.roster.Continues after.roster) :
    Addressed target after where
  host := settings ▸ addressed.host
  endpoints position endpoint found := by
    obtain ⟨before, foundBefore, same⟩ := continues.origin found
    rw [same.address]
    exact addressed.endpoints position before foundBefore

/-- The only endpoints that are added are made for the pool's own host. -/
theorem step (addressed : Addressed target pool) (input : Input) :
    Addressed target (pool.step input).1 := by
  have settings := settings_step pool input
  obtain ⟨after, effects, stepped, acts⟩ := exists_acts pool input
  rw [stepped] at settings ⊢
  cases acts with
  | aside kept _ _ => exact addressed.of_continues settings kept.roster
  | answered _ _ => exact addressed.of_continues settings (.of_same rfl)
  | @reused _ _ _ answer _ _ _ =>
    exact addressed.of_continues settings ((pool.withAnswer answer).continues_publish ..)
  | joined _ _ => exact addressed.of_continues settings (pool.continues_publish ..)
  | @started _ _ now outcome _ _ _ _ _ ip _ _ _ _ =>
    constructor
    · exact settings ▸ addressed.host
    · intro position endpoint found
      simp only [withEndpoint, setPhase, Roster.get?_push] at found
      split at found
      · cases found
        rw [probedEndpoint, Endpoint.record_fst]
        exact congrArg Http.Target.port addressed.host
      · exact addressed.endpoints position endpoint found

theorem run (addressed : Addressed target pool) (inputs : List Input) :
    Addressed target (pool.run inputs).1 :=
  run_invariant (fun _ input _ addressed => addressed.step input) addressed

/-- Whoever's turn it is, a URI for its internet address names its socket address. -/
theorem next (addressed : Addressed target pool) {address : SocketAddress}
    (isNext : pool.roster.next.1.map (·.address) = some address) :
    target.socketAddress address.ip = address := by
  rw [next_eq] at isNext
  obtain ⟨position, _, atPosition⟩ := Option.bind_eq_some_iff.mp isNext
  obtain ⟨endpoint, found, rfl⟩ := Option.map_eq_some_iff.mp atPosition
  rw [Http.Target.socketAddress, ← addressed.endpoints position endpoint found]

end Addressed

end Pool

/-! ## Calls -/

namespace Dispatcher

variable {σ : Type} {dispatcher : Dispatcher σ} {surroundings : Surroundings σ}
variable {request : Http.Request} {attempted : List SocketAddress} {state : σ}

/-- Something that holds of the state whatever the dispatcher and its surroundings do. -/
structure Lasts (dispatcher : Dispatcher σ) (surroundings : Surroundings σ)
    (invariant : σ → Prop) : Prop where
  next : ∀ state, invariant state → invariant (surroundings.next state).2
  transform : ∀ request state, invariant state → invariant (dispatcher.transform request state).2
  exchange : ∀ address request state, invariant state →
    invariant (surroundings.exchange address request state).2

/-- An endpoint was handed out in a state of which the invariant holds, and the request of a call was
aimed at its address. -/
def Call.Named (dispatcher : Dispatcher σ) (surroundings : Surroundings σ) (invariant : σ → Prop)
    (call : Call) : Prop :=
  (∃ state, invariant state ∧ (surroundings.next state).1 = some call.address) ∧
    ∃ changed, dispatcher.target.retarget call.address.ip changed = .ok call.request

theorem Lasts.attempt {invariant : σ → Prop} (lasts : Lasts dispatcher surroundings invariant)
    (request : Http.Request) (attempted : List SocketAddress) (holds : invariant state) :
    invariant (dispatcher.attempt surroundings request attempted state).2.2 ∧
      ∀ call, (dispatcher.attempt surroundings request attempted state).1 = .ok call →
        call.Named dispatcher surroundings invariant := by
  have afterNext := lasts.next state holds
  cases asked : surroundings.next state with
  | mk endpoint afterAsking =>
    rw [asked] at afterNext
    cases endpoint with
    | none =>
      simp only [Dispatcher.attempt, asked]
      exact ⟨afterNext, fun call isCall => by contradiction⟩
    | some address =>
      have afterChange := lasts.transform request afterAsking afterNext
      cases changes : dispatcher.transform request afterAsking with
      | mk changed afterChanging =>
        rw [changes] at afterChange
        cases aim : dispatcher.target.retarget address.ip changed with
        | error error =>
          simp only [Dispatcher.attempt, asked, changes, aim]
          exact ⟨afterChange, fun call isCall => by contradiction⟩
        | ok aimed =>
          have afterExchange := lasts.exchange address aimed afterChanging afterChange
          cases exchanged : surroundings.exchange address aimed afterChanging with
          | mk outcome afterAnswer =>
            rw [exchanged] at afterExchange
            simp only [Dispatcher.attempt, asked, changes, aim, exchanged]
            constructor
            · exact afterExchange
            · intro call isCall
              cases isCall
              exact ⟨⟨state, holds, congrArg Prod.fst asked⟩, changed, aim⟩

/-- By induction on the attempts that are left. -/
theorem Lasts.sendFrom {invariant : σ → Prop} (lasts : Lasts dispatcher surroundings invariant)
    (left : Nat) (holds : invariant state) :
    ∀ call ∈ (dispatcher.sendFrom surroundings request left attempted state).calls,
      call.Named dispatcher surroundings invariant := by
  induction left generalizing attempted state with
  | zero => exact List.forall_mem_nil _
  | succ left ih =>
    obtain ⟨lastsOn, named⟩ := lasts.attempt request.copy attempted holds
    cases dispatcher.tried surroundings request.copy attempted state with
    | failed made =>
      rw [sendFrom_of_failed made]
      exact List.forall_mem_nil _
    | settled made final =>
      rw [made] at named
      rcases sendFrom_of_settled left made final with ⟨_, _, settled⟩
      rw [settled]
      exact List.forall_mem_singleton.mpr (named _ rfl)
    | timedOut made outcome timeout =>
      rw [made] at lastsOn named
      rw [sendFrom_of_timedOut made outcome timeout]
      exact List.forall_mem_cons.mpr ⟨named _ rfl, ih lastsOn⟩

theorem Lasts.sendOnce {invariant : σ → Prop} (lasts : Lasts dispatcher surroundings invariant)
    (holds : invariant state) :
    ∀ call ∈ (dispatcher.sendOnce surroundings request state).calls,
      call.Named dispatcher surroundings invariant := by
  have named := (lasts.attempt request [] holds).2
  cases dispatcher.tried surroundings request [] state with
  | failed made =>
    rw [sendOnce_of_failed made]
    exact List.forall_mem_nil _
  | settled made _ | timedOut made _ _ =>
    rw [made] at named
    rw [sendOnce_of_called made]
    exact List.forall_mem_singleton.mpr (named _ rfl)

/-- Whatever else happens to a pool, its endpoints stay at the port of its host. -/
theorem lasts_sharing (target : Http.Target) (change : Http.Request → Pool × Nat → Http.Request)
    (course : Nat → Except TransportError Http.Response × List Pool.Input) :
    Lasts ⟨target, fun request state => (change request state, state)⟩ (sharing course)
      (fun state => state.1.Addressed target) where
  next _ addressed := addressed.step .next
  transform _ _ addressed := addressed
  exchange _ _ state addressed := addressed.run (course state.2).2

theorem Call.Named.socketAddress {target : Http.Target} {call : Call}
    {change : Http.Request → Pool × Nat → Http.Request}
    {course : Nat → Except TransportError Http.Response × List Pool.Input}
    (named : call.Named ⟨target, fun request state => (change request state, state)⟩
      (sharing course) fun state => state.1.Addressed target) :
    target.socketAddress call.address.ip = call.address ∧
      ∃ changed, target.retarget call.address.ip changed = .ok call.request := by
  obtain ⟨⟨state, addressed, isNext⟩, isAimed⟩ := named
  exact ⟨addressed.next isNext, isAimed⟩

/-! ## Aimed requests -/

/-- A request that has been aimed names the scheme and the socket address in its URI, and then a
resource from the root; it has one field for the host, and all else as the request had it. It always
has a form for the first line of an exchange, which is this resource, so no transport refuses
it. And whatever the application makes of its requests, and whatever happens to a pool of the same
settings in the meantime: the socket address that a URI names is the one that is called. -/
theorem aimed_requests_name_their_addresses :
    (∀ (target : Http.Target) (ip : Ip) (request aimed : Http.Request),
      target.retarget ip request = .ok aimed →
        ∃ resource : Http.Resource, resource.text.toList.head? = some '/' ∧
          aimed.uri.text = target.protocol.scheme ++ "://" ++ (target.socketAddress ip).text ++
            resource.text ∧
          aimed = { request with uri := aimed.uri, headers := aimed.headers } ∧
          aimed.headers.toList.filter (·.1 ≠ "host") =
            request.headers.toList.filter (·.1 ≠ "host") ∧
          aimed.headers.toList.filter (·.1 = "host") =
            [("host", Text.encode target.hostHeader)] ∧
          aimed.originForm = .ok { aimed with uri := .origin resource } ∧
          (Http.Uri.origin resource).text = resource.text) ∧
    (∀ (transport : Connection.Transport) (inputs : List Connection.Input),
      (∀ id address request, .send id address request ∈ inputs →
        ∃ (target : Http.Target) (ip : Ip) (original : Http.Request),
          target.retarget ip original = .ok request) →
      ∀ id error, .finished id (.error (.request error)) ∉ (transport.run inputs).2) ∧
    ∀ (settings : Settings) (change : Http.Request → Pool × Nat → Http.Request)
      (course : Nat → Except TransportError Http.Response × List Pool.Input)
      (inputs : List Pool.Input) (request : Http.Request) (made : Nat),
      let dispatcher : Dispatcher (Pool × Nat) :=
        { target := settings.target
          transform := fun request state => (change request state, state) }
      let pool := ((Pool.make (.ofSettings settings)).run inputs).1
      ∀ call ∈ (dispatcher.send (sharing course) request (pool, made)).calls ++
          (dispatcher.sendOnce (sharing course) request (pool, made)).calls,
        ∃ resource : Http.Resource, resource.text.toList.head? = some '/' ∧
          call.request.uri.text =
            settings.protocol.scheme ++ "://" ++ call.address.text ++ resource.text := by
  refine ⟨fun target ip request aimed => Http.Target.retarget_form, ?_, ?_⟩
  · intro transport inputs allAimed id error finished
    obtain ⟨address, request, asked, noForm⟩ := Connection.Transport.refused_of_run finished
    obtain ⟨target, ip, original, isAimed⟩ := allAimed id address request asked
    obtain ⟨_, _, _, _, _, _, hasForm, _⟩ := Http.Target.retarget_form isAimed
    rw [hasForm] at noForm
    contradiction
  · intro settings change course inputs request made dispatcher pool call among
    have addressed : pool.Addressed settings.target :=
      (Pool.Addressed.of_make (.ofSettings settings)).run inputs
    have lasts := lasts_sharing settings.target change course
    have named : call.Named dispatcher (sharing course) fun state =>
        state.1.Addressed settings.target := by
      cases List.mem_append.mp among with
      | inl ofSend => exact lasts.sendFrom maxAttempts addressed call ofSend
      | inr ofOnce => exact lasts.sendOnce addressed call ofOnce
    obtain ⟨same, changed, isAimed⟩ := named.socketAddress
    obtain ⟨resource, begins, isText, _⟩ := Http.Target.retarget_form isAimed
    rw [same] at isText
    exact ⟨resource, begins, isText⟩

/-- Settings with a host at a port of its own. -/
def ownPort : Settings := { hostname := "api.example", port := 8443 }

/-- The pool of these settings comes to its first endpoint. -/
def firstUp : List Pool.Input :=
  [.refresh 0 .construction, .answered 0 (.ok [.v4 ⟨10, 0, 0, 1⟩]),
    .firstProbed 0 0 3 (.status 200), .join 0]

/-- The calls of a request that is sent on this pool, as it is and twice. -/
def callsOnFirst (request : Http.Request) : List Call :=
  let dispatcher : Dispatcher (Pool × Nat) :=
    { target := ownPort.target, transform := fun request state => (request, state) }
  let course (_ : Nat) : Except TransportError Http.Response × List Pool.Input :=
    (.ok { status := 200 }, [])
  let pool := ((Pool.make (.ofSettings ownPort)).run firstUp).1
  (dispatcher.send (sharing course) request (pool, 0)).calls ++
    (dispatcher.sendOnce (sharing course) request (pool, 0)).calls

/-- A request with two values for the host is aimed, then taken by a transport, and called for. -/
theorem aimed_requests_name_their_addresses_bareQuery :
    (∃ aimed, Http.Target.withPort.retarget (.v4 ⟨10, 0, 0, 1⟩) Http.Target.bareQuery = .ok aimed ∧
      aimed.headers.toList.filter (·.1 = "host") = [("host", Text.encode "api.example:8443")] ∧
      ∀ id error, .finished id (.error (.request error)) ∉
        ((Connection.Transport.make .plain ⟨1000⟩ ⟨1, ⟨1000⟩⟩).run
          [.send 0 ⟨.v4 ⟨10, 0, 0, 1⟩, 8443⟩ aimed]).2) ∧
    ∃ first second, callsOnFirst Http.Target.bareQuery = [first, second] ∧
      ∃ resource : Http.Resource, resource.text.toList.head? = some '/' ∧
        first.request.uri.text = "https" ++ "://" ++ first.address.text ++ resource.text := by
  obtain ⟨form, unrefused, named⟩ := aimed_requests_name_their_addresses
  constructor
  · obtain ⟨aimed, isAimed⟩ := Http.Target.exists_retarget_bareQuery
    obtain ⟨_, _, _, _, _, host, _⟩ := form _ _ _ _ isAimed
    refine ⟨aimed, isAimed, host, ?_⟩
    apply unrefused
    intro id address request asked
    cases List.mem_singleton.mp asked
    exact ⟨_, _, _, isAimed⟩
  · have count : (callsOnFirst Http.Target.bareQuery).length = 2 := by decide +kernel
    obtain ⟨first, second, areCalls⟩ := List.length_eq_two.mp count
    have among : first ∈ callsOnFirst Http.Target.bareQuery := areCalls ▸ List.mem_cons_self
    exact ⟨first, second, areCalls, named ownPort _ _ firstUp Http.Target.bareQuery 0 first among⟩

end Dispatcher

end OneHost
