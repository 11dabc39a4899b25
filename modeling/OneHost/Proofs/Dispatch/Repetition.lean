import Mathlib.Data.List.Basic
import OneHost.Proofs.Dispatch.Outcome

/-!
# What is done again in another attempt

A sending asks, changes and aims anew for each attempt, and each time it begins with a copy of the
request that it was given. So a dispatcher that changes every request in the same way makes the same
of it each time. A sending with a single attempt does what the first of several attempts does; the
others go on from where that one has left the surroundings.
-/

namespace OneHost

variable {σ : Type}

namespace Contact

/-- What the transformer was given and what it made of it among some contacts, in order. -/
def changes (contacts : List Contact) : List (Http.Request × Http.Request) :=
  contacts.filterMap fun
    | changed before after => some (before, after)
    | _ => none

@[simp] theorem changes_append (first second : List Contact) :
    changes (first ++ second) = changes first ++ changes second :=
  List.filterMap_append

@[simp] theorem endpoints_append (first second : List Contact) :
    endpoints (first ++ second) = endpoints first ++ endpoints second :=
  List.filterMap_append

end Contact

namespace Dispatcher

variable {dispatcher : Dispatcher σ} {surroundings : Surroundings σ}
variable {target : Http.Target} {change : Http.Request → Http.Request}
variable {request : Http.Request} {state : σ}

/-! ## The same request each time -/

/-- In some contacts, what is changed is always the same request, it is changed once for each
endpoint that is handed out, every call is about something that it was changed into, and an endpoint
is passed over only if that cannot be aimed at it. -/
structure StartsAfresh (target : Http.Target) (request : Http.Request) (contacts : List Contact) :
    Prop where
  given : ∀ pair ∈ Contact.changes contacts, pair.1 = request
  often : (Contact.changes contacts).length = (Contact.endpoints contacts).countP Option.isSome
  aimed : ∀ call ∈ Contact.calls contacts, ∃ pair ∈ Contact.changes contacts,
    target.retarget call.address.ip pair.2 = .ok call.request
  served : ∀ address, some address ∈ Contact.endpoints contacts →
    (∃ call ∈ Contact.calls contacts, call.address = address) ∨
      ∃ pair ∈ Contact.changes contacts, ∃ error, target.retarget address.ip pair.2 = .error error

theorem Attempts.startsAfresh {attempted : List SocketAddress} {contacts : List Contact}
    {result : Except DispatchError Call}
    (attempt : Attempts target request attempted contacts result) :
    StartsAfresh target request contacts := by
  cases attempt with
  | noEndpoint => constructor <;> simp [Contact.changes, Contact.endpoints, Contact.calls]
  | refused address changed error refusal =>
    constructor
    case served =>
      intro other handedOut
      have same : other = address := by simpa [Contact.endpoints] using handedOut
      rw [same]
      exact .inr ⟨(request, changed), List.mem_singleton.mpr rfl, error, refusal⟩
    all_goals simp [Contact.changes, Contact.endpoints, Contact.calls]
  | called call changed aimed =>
    constructor
    case aimed =>
      intro other among
      have same : other = call := by simpa [Contact.calls] using among
      rw [same]
      exact ⟨(request, changed), List.mem_singleton.mpr rfl, aimed⟩
    all_goals simp [Contact.changes, Contact.endpoints, Contact.calls]

theorem StartsAfresh.append {first second : List Contact}
    (before : StartsAfresh target request first) (after : StartsAfresh target request second) :
    StartsAfresh target request (first ++ second) := by
  constructor
  · intro pair among
    rw [Contact.changes_append] at among
    cases List.mem_append.mp among with
    | inl inFirst => exact before.given pair inFirst
    | inr inSecond => exact after.given pair inSecond
  · simp [before.often, after.often]
  · intro call among
    rw [Contact.calls_append] at among
    rw [Contact.changes_append]
    cases List.mem_append.mp among with
    | inl inFirst =>
      rcases before.aimed call inFirst with ⟨pair, isChange, aimed⟩
      exact ⟨pair, List.mem_append_left _ isChange, aimed⟩
    | inr inSecond =>
      rcases after.aimed call inSecond with ⟨pair, isChange, aimed⟩
      exact ⟨pair, List.mem_append_right _ isChange, aimed⟩
  · intro address handedOut
    rw [Contact.endpoints_append] at handedOut
    rw [Contact.calls_append, Contact.changes_append]
    cases List.mem_append.mp handedOut with
    | inl inFirst =>
      apply (before.served address inFirst).imp
      · rintro ⟨call, made, same⟩
        exact ⟨call, List.mem_append_left _ made, same⟩
      · rintro ⟨pair, isChange, refused⟩
        exact ⟨pair, List.mem_append_left _ isChange, refused⟩
    | inr inSecond =>
      apply (after.served address inSecond).imp
      · rintro ⟨call, made, same⟩
        exact ⟨call, List.mem_append_right _ made, same⟩
      · rintro ⟨pair, isChange, refused⟩
        exact ⟨pair, List.mem_append_right _ isChange, refused⟩

/-- By induction on the attempts, all of which are made with a copy of the one request. -/
theorem Delivers.startsAfresh {left : Nat} {attempted : List SocketAddress}
    {contacts : List Contact} {result : Except DispatchError Http.Response}
    (delivers : Delivers target request left attempted contacts result) :
    StartsAfresh target request.copy contacts := by
  induction delivers with
  | exhausted => constructor <;> simp [Contact.changes, Contact.endpoints, Contact.calls]
  | failed attempt => exact attempt.startsAfresh
  | settled attempt => exact attempt.startsAfresh
  | again attempt _ _ ih => exact attempt.startsAfresh.append ih

/-- What requests are changed into, the transformer makes of them in states that are come to. -/
theorem Keeps.changing {among : σ → Prop}
    (keeps : Keeps dispatcher surroundings fun _ => among) :
    Keeps dispatcher.recorded surroundings.recorded fun _ state =>
      among state.1 ∧ ∀ pair ∈ Contact.changes state.2,
        ∃ before, among before ∧ pair.2 = (dispatcher.transform pair.1 before).1 := by
  constructor
  · intro calls state holds
    constructor
    · exact @keeps.next [] _ holds.1
    · simpa [Surroundings.recorded, Contact.changes] using holds.2
  · intro calls state request holds
    constructor
    · exact @keeps.transform [] _ request holds.1
    · intro pair isChange
      simp only [recorded, Contact.changes_append] at isChange
      cases List.mem_append.mp isChange with
      | inl earlier => exact holds.2 pair earlier
      | inr now =>
        rw [List.mem_singleton.mp now]
        exact ⟨state.1, holds.1, rfl⟩
  · intro calls state address request holds
    constructor
    · exact @keeps.exchange [] _ address request holds.1
    · simpa [Surroundings.recorded, Contact.changes] using holds.2

theorem Keeps.changed {among : σ → Prop} (keeps : Keeps dispatcher surroundings fun _ => among)
    (request : Http.Request) (begins : among state) :
    ∀ pair ∈ Contact.changes (dispatcher.contacts surroundings request state),
      ∃ before, among before ∧ pair.2 = (dispatcher.transform pair.1 before).1 := by
  have empty : ∀ pair ∈ Contact.changes [],
      ∃ before, among before ∧ pair.2 = (dispatcher.transform pair.1 before).1 :=
    List.forall_mem_nil _
  exact (@Keeps.send _ _ _ _ (state, []) keeps.changing request ⟨begins, empty⟩).2

/-- Whatever the endpoints and the carrier do: a dispatcher that changes all requests in one way
does so once for each endpoint that it is given, always with a copy of the caller's own request and
never with what came of an earlier attempt. The carrier gets exactly what this becomes when it is
aimed at the endpoint, if it can be; so calls to one internet address are about equal requests. When
all attempts are used up, the failure names the method and the URI of the caller's request, whatever
the changes have made of them. -/
theorem attempts_start_afresh (target : Http.Target) (change : Http.Request → Http.Request)
    (surroundings : Surroundings σ) (request : Http.Request) (state : σ) :
    let dispatcher : Dispatcher σ := ofChange target change
    let delivery := dispatcher.send surroundings request state
    let contacts := dispatcher.contacts surroundings request state
    (dispatcher.recorded.send surroundings.recorded request (state, [])).state =
        (delivery.state, contacts) ∧
      delivery.calls = Contact.calls contacts ∧
      delivery.calls.map (fun call => some call.address) <+: Contact.endpoints contacts ∧
      Contact.changes contacts =
        List.replicate ((Contact.endpoints contacts).countP Option.isSome)
          (request.copy, change request.copy) ∧
      (∀ call ∈ delivery.calls,
        target.retarget call.address.ip (change request.copy) = .ok call.request) ∧
      (∀ address aimed, some address ∈ Contact.endpoints contacts →
        target.retarget address.ip (change request.copy) = .ok aimed →
          ∃ call ∈ delivery.calls, call.address = address ∧ call.request = aimed) ∧
      (∀ first ∈ delivery.calls, ∀ second ∈ delivery.calls,
        first.address.ip = second.address.ip → first.request = second.request) ∧
      ∀ addresses method uri,
        delivery.result = .error (.retriesExhausted addresses method uri) →
          method = request.method ∧ uri = request.uri := by
  intro dispatcher delivery contacts
  rcases send_recorded dispatcher surroundings request state with ⟨delivers, calls, isRecord⟩
  have account := delivers.account
  have afresh : StartsAfresh target request.copy contacts := delivers.startsAfresh
  have anywhere : Keeps dispatcher surroundings fun _ _ => True := by
    constructor <;> simp
  have changed : ∀ pair ∈ Contact.changes contacts,
      ∃ before, True ∧ pair.2 = (dispatcher.transform pair.1 before).1 :=
    anywhere.changed request trivial
  have same : ∀ pair ∈ Contact.changes contacts, pair = (request.copy, change request.copy) := by
    intro pair isChange
    have given := afresh.given pair isChange
    rcases changed pair isChange with ⟨_, _, becomes⟩
    rw [given] at becomes
    exact Prod.ext given becomes
  have aimed : ∀ call ∈ delivery.calls,
      target.retarget call.address.ip (change request.copy) = .ok call.request := by
    intro call among
    rcases afresh.aimed call (calls ▸ among) with ⟨pair, isChange, isAimed⟩
    rw [same pair isChange] at isAimed
    exact isAimed
  refine ⟨isRecord, calls, calls ▸ account.inOrder, ?_, aimed, ?_, ?_, ?_⟩
  · exact List.eq_replicate_iff.mpr ⟨afresh.often, same⟩
  · intro address request handedOut isAimed
    cases afresh.served address handedOut with
    | inl served =>
      rcases served with ⟨call, made, rfl⟩
      have ofCall := aimed call (calls ▸ made)
      rw [isAimed] at ofCall
      exact ⟨call, calls ▸ made, rfl, (Except.ok.inj ofCall).symm⟩
    | inr refused =>
      rcases refused with ⟨pair, isChange, error, refusal⟩
      rw [same pair isChange, isAimed] at refusal
      contradiction
  · intro first isFirst second isSecond sameIp
    have ofFirst := aimed first isFirst
    rw [sameIp, aimed second isSecond] at ofFirst
    exact (Except.ok.inj ofFirst).symm
  · intro addresses method uri exhausted
    rcases (account.exhausted addresses method uri).mp exhausted with ⟨_, _, _, rfl, rfl⟩
    exact ⟨rfl, rfl⟩

/-- A host at whose only address no connection comes about in time. -/
def outOfReach : Surroundings Unit where
  next _ := (some ⟨.v4 ⟨10, 0, 0, 1⟩, 80⟩, ())
  exchange address _ _ := (.error (.connectTimeout address ⟨1000⟩), ())

/-- A request without a body. -/
def bare : Http.Request := { method := "GET", uri := .origin ⟨"/", none⟩ }

/-- Change the method of a request, and add a value to a header of it. -/
def marked (request : Http.Request) : Http.Request :=
  { request with
    method := "PUT"
    headers := request.headers.append "x-attempt" (Text.encode "again") }

/-- All three attempts go to one address with equal requests, which are marked once, and the failure
names the method that they were not sent with. -/
theorem attempts_start_afresh_outOfReach :
    let delivery := (ofChange ⟨.http, "api", 80⟩ marked).send outOfReach bare ()
    ∃ first second third, delivery.calls = [first, second, third] ∧
      first.request = second.request ∧ first.request = third.request ∧
      (first.request.method, (first.request.headers.toList.filter (·.1 = "x-attempt")).length) =
        ("PUT", 1) ∧
      ∃ addresses uri, delivery.result = .error (.retriesExhausted addresses "GET" uri) := by
  intro delivery
  have count : delivery.calls.length = 3 := by decide +kernel
  have sameIp : ∀ call ∈ delivery.calls, call.address.ip = .v4 ⟨10, 0, 0, 1⟩ := by decide +kernel
  have written : delivery.calls.head?.map (fun call => (call.request.method,
      (call.request.headers.toList.filter (·.1 = "x-attempt")).length)) = some ("PUT", 1) := by
    decide +kernel
  rcases List.length_eq_three.mp count with ⟨first, second, third, areCalls⟩
  rcases attempts_start_afresh ⟨.http, "api", 80⟩ marked outOfReach bare () with
    ⟨_, _, _, _, _, _, sameRequest, sameMethod⟩
  have isFirst : first ∈ delivery.calls := by simp [areCalls]
  have isSecond : second ∈ delivery.calls := by simp [areCalls]
  have isThird : third ∈ delivery.calls := by simp [areCalls]
  rw [areCalls] at written
  refine ⟨first, second, third, areCalls, ?_, ?_, Option.some.inj written, ?_⟩
  · apply sameRequest first isFirst second isSecond
    rw [sameIp first isFirst, sameIp second isSecond]
  · apply sameRequest first isFirst third isThird
    rw [sameIp first isFirst, sameIp third isThird]
  · have kind : (match delivery.result with
        | .error (.retriesExhausted ..) => true
        | _ => false) = true := by
      decide +kernel
    split at kind
    · rename_i addresses method uri failed
      rcases sameMethod addresses method uri failed with ⟨rfl, _⟩
      exact ⟨addresses, uri, failed⟩
    · contradiction

/-! ## One attempt -/

/-- The contacts of sending a request with a single attempt, in order. -/
def contactsOnce (dispatcher : Dispatcher σ) (surroundings : Surroundings σ)
    (request : Http.Request) (state : σ) : List Contact :=
  (dispatcher.recorded.sendOnce surroundings.recorded request (state, [])).state.2

theorem Attempts.endpoints_length {attempted : List SocketAddress} {contacts : List Contact}
    {result : Except DispatchError Call}
    (attempt : Attempts target request attempted contacts result) :
    (Contact.endpoints contacts).length = 1 := by
  cases attempt <;> rfl

/-- Recording changes nothing about a single attempt either. -/
theorem sendOnce_recorded (dispatcher : Dispatcher σ) (surroundings : Surroundings σ)
    (request : Http.Request) (state : σ) :
    let once := dispatcher.sendOnce surroundings request state
    let contacts := dispatcher.contactsOnce surroundings request state
    dispatcher.recorded.sendOnce surroundings.recorded request (state, []) =
        ⟨once.result, once.calls, once.events, once.state, contacts⟩ ∧
      (Contact.endpoints contacts).length = 1 := by
  rcases attempt_recorded dispatcher surroundings request [] state [] with
    ⟨contacts, attempts, same⟩
  have asked := attempts.endpoints_length
  rw [contactsOnce]
  cases dispatcher.tried surroundings request [] state with
  | failed made =>
    rw [made] at same
    rw [sendOnce_of_failed made, sendOnce_of_failed same]
    exact ⟨rfl, asked⟩
  | settled made _ | timedOut made _ _ =>
    rw [made] at same
    rw [sendOnce_of_called made, sendOnce_of_called same]
    exact ⟨rfl, asked⟩

theorem length_calls_sendOnce :
    (dispatcher.sendOnce surroundings request state).calls.length ≤ 1 := by
  cases dispatcher.tried surroundings request [] state with
  | failed made =>
    rw [sendOnce_of_failed made]
    exact Nat.zero_le 1
  | settled made _ | timedOut made _ _ =>
    rw [sendOnce_of_called made]
    exact Nat.le_refl 1

/-- If a first attempt is not to be repeated, it is all that is done. -/
theorem send_of_final (isCopy : request.copy = request)
    (final : ∀ call ∈ (dispatcher.sendOnce surroundings request state).calls, ¬call.TimedOut) :
    dispatcher.send surroundings request state =
      dispatcher.sendOnce surroundings request state := by
  cases dispatcher.tried surroundings request [] state with
  | failed made =>
    rw [sendOnce_of_failed made]
    rw [← isCopy] at made
    exact sendFrom_of_failed made
  | settled made once =>
    rw [sendOnce_of_called made]
    rw [← isCopy] at made
    rcases sendFrom_of_settled 2 made once with ⟨more, first, settled⟩
    rw [first rfl, List.append_nil] at settled
    exact settled
  | timedOut made outcome timeout =>
    rw [sendOnce_of_called made] at final
    exact absurd ⟨_, outcome, timeout⟩ (final _ (List.mem_singleton.mpr rfl))

/-- If no connection came about in time in the first attempt, the others go on from there. -/
theorem send_of_timedOut (isCopy : request.copy = request) {call : Call} {error : TransportError}
    (called : call ∈ (dispatcher.sendOnce surroundings request state).calls)
    (outcome : call.outcome = .error error) (timeout : error.isConnectTimeout = true) :
    let once := dispatcher.sendOnce surroundings request state
    let rest := dispatcher.sendFrom surroundings request (maxAttempts - 1) [call.address] once.state
    once.result = .error (.transport call.address error) ∧
      once.calls = [call] ∧
      dispatcher.send surroundings request state =
        ⟨rest.result, call :: rest.calls,
          once.events ++ .connectTimedOut call.address 1 error.message :: rest.events,
          rest.state⟩ := by
  cases dispatcher.tried surroundings request [] state with
  | failed made =>
    rw [sendOnce_of_failed made] at called
    contradiction
  | settled made _ | timedOut made _ _ =>
    rw [sendOnce_of_called made] at called ⊢
    cases List.mem_singleton.mp called
    have failed : call.result = .error (.transport call.address error) :=
      Call.result_eq_error_iff.mpr ⟨error, outcome, rfl⟩
    rw [← isCopy] at made
    exact ⟨failed, rfl, sendFrom_of_timedOut made outcome timeout⟩

/-- The record of a sending that ends with its first attempt. -/
theorem contacts_of_final (isCopy : request.copy = request)
    (final : ∀ call ∈ (dispatcher.sendOnce surroundings request state).calls, ¬call.TimedOut) :
    dispatcher.contacts surroundings request state =
      dispatcher.contactsOnce surroundings request state := by
  rcases sendOnce_recorded dispatcher surroundings request state with ⟨isRecord, _⟩
  have same : dispatcher.recorded.send surroundings.recorded request (state, []) =
      dispatcher.recorded.sendOnce surroundings.recorded request (state, []) := by
    apply send_of_final isCopy
    rw [isRecord]
    exact final
  exact congrArg (·.state.2) same

/-- The record of a sending that goes on after its first attempt. -/
theorem contacts_of_timedOut (isCopy : request.copy = request) {call : Call}
    (called : call ∈ (dispatcher.sendOnce surroundings request state).calls)
    (timedOut : call.TimedOut) :
    dispatcher.contactsOnce surroundings request state <+:
      dispatcher.contacts surroundings request state := by
  rcases timedOut with ⟨error, outcome, timeout⟩
  rcases sendOnce_recorded dispatcher surroundings request state with ⟨isRecord, _⟩
  have calledInRecord :
      call ∈ (dispatcher.recorded.sendOnce surroundings.recorded request (state, [])).calls := by
    rw [isRecord]
    exact called
  rcases send_of_timedOut isCopy calledInRecord outcome timeout with ⟨_, _, goesOn⟩
  rcases sendFrom_recorded dispatcher surroundings request (maxAttempts - 1) [call.address]
    (dispatcher.sendOnce surroundings request state).state
    (dispatcher.contactsOnce surroundings request state) with ⟨more, _, _, record⟩
  rw [contacts, goesOn, isRecord, record]
  exact List.prefix_append _ more

/-- What a single attempt does is what several attempts do first. -/
theorem sendOnce_comes_first (isCopy : request.copy = request) :
    (dispatcher.sendOnce surroundings request state).calls =
        (dispatcher.send surroundings request state).calls.take 1 ∧
      dispatcher.contactsOnce surroundings request state <+:
        dispatcher.contacts surroundings request state := by
  by_cases repeats :
      ∃ call ∈ (dispatcher.sendOnce surroundings request state).calls, call.TimedOut
  · rcases repeats with ⟨call, called, timedOut⟩
    constructor
    · rcases timedOut with ⟨error, outcome, timeout⟩
      rcases send_of_timedOut isCopy called outcome timeout with ⟨_, only, goesOn⟩
      rw [only, goesOn]
      rfl
    · exact contacts_of_timedOut isCopy called timedOut
  · have final : ∀ call ∈ (dispatcher.sendOnce surroundings request state).calls,
        ¬call.TimedOut := by
      intro call called timedOut
      exact repeats ⟨call, called, timedOut⟩
    rw [send_of_final isCopy final, contacts_of_final isCopy final]
    constructor
    · exact (List.take_of_length_le length_calls_sendOnce).symm
    · exact List.prefix_rfl

/-- Sending with a single attempt asks for one endpoint and makes at most one call, and all its
contacts are the first ones of sending with several attempts. If this call finds a connection in
time or none is made, for want of an endpoint or of a URI, the two are the same in all respects. If
not, this is the failure of the single attempt, and the other attempts begin in the state in which
that one has left the surroundings. -/
theorem sendOnce_is_first_attempt (dispatcher : Dispatcher σ) (surroundings : Surroundings σ)
    (state : σ) {request : Http.Request} (unattached : request.attachments = []) :
    let once := dispatcher.sendOnce surroundings request state
    let whole := dispatcher.send surroundings request state
    let contactsOnce := dispatcher.contactsOnce surroundings request state
    let contacts := dispatcher.contacts surroundings request state
    (dispatcher.recorded.sendOnce surroundings.recorded request (state, [])).state =
        (once.state, contactsOnce) ∧
      (dispatcher.recorded.send surroundings.recorded request (state, [])).state =
        (whole.state, contacts) ∧
      (Contact.endpoints contactsOnce).length = 1 ∧
      once.calls = whole.calls.take 1 ∧
      contactsOnce <+: contacts ∧
      ((∀ call ∈ once.calls, ¬call.TimedOut) → whole = once ∧ contacts = contactsOnce) ∧
      ∀ call ∈ once.calls, ∀ error,
        call.outcome = .error error → error.isConnectTimeout = true →
          let rest :=
            dispatcher.sendFrom surroundings request (maxAttempts - 1) [call.address] once.state
          once.result = .error (.transport call.address error) ∧
            whole = ⟨rest.result, call :: rest.calls,
              once.events ++ .connectTimedOut call.address 1 error.message :: rest.events,
              rest.state⟩ := by
  intro once whole contactsOnce contacts
  have isCopy : request.copy = request := by rw [Http.Request.copy, ← unattached]
  rcases sendOnce_recorded dispatcher surroundings request state with ⟨isRecord, asked⟩
  rcases send_recorded dispatcher surroundings request state with ⟨_, _, isWholeRecord⟩
  rcases sendOnce_comes_first isCopy with ⟨sameCall, sameContacts⟩
  refine ⟨by rw [isRecord], isWholeRecord, asked, sameCall, sameContacts, ?_, ?_⟩
  · intro final
    exact ⟨send_of_final isCopy final, contacts_of_final isCopy final⟩
  · intro call called error outcome timeout
    rcases send_of_timedOut isCopy called outcome timeout with ⟨failed, _, goesOn⟩
    exact ⟨failed, goesOn⟩

theorem keeps_outOfReach (dispatcher : Dispatcher Unit) :
    Keeps dispatcher outOfReach fun calls _ => ∀ call ∈ calls, call.TimedOut := by
  constructor
  · intro calls state holds
    exact holds
  · intro calls state request holds
    exact holds
  · intro calls state address request holds call among
    cases List.mem_append.mp among with
    | inl earlier => exact holds call earlier
    | inr now =>
      rw [List.mem_singleton.mp now]
      exact ⟨_, rfl, rfl⟩

/-- A single attempt fails where two more are made of several. -/
theorem sendOnce_is_first_attempt_outOfReach :
    let dispatcher : Dispatcher Unit := ofChange ⟨.http, "api", 80⟩ marked
    let once := dispatcher.sendOnce outOfReach bare ()
    let whole := dispatcher.send outOfReach bare ()
    bare.attachments = [] ∧ whole.calls.length = 3 ∧ ∃ call error,
      once.calls = [call] ∧ error.isConnectTimeout = true ∧
        once.result = .error (.transport call.address error) ∧
        whole.calls = call :: (dispatcher.sendFrom outOfReach bare 2 [call.address] ()).calls := by
  intro dispatcher once whole
  have unattached : bare.attachments = [] := rfl
  have count : once.calls.length = 1 := by decide +kernel
  rcases List.length_eq_one_iff.mp count with ⟨call, only⟩
  rcases sendOnce_is_first_attempt dispatcher outOfReach () unattached with
    ⟨_, _, _, first, _, _, goesOn⟩
  have called : call ∈ once.calls := by simp [only]
  have timedOut : call.TimedOut := by
    apply (keeps_outOfReach dispatcher).send bare (List.forall_mem_nil _) call
    exact List.mem_of_mem_take (first ▸ called)
  rcases timedOut with ⟨error, outcome, timeout⟩
  rcases goesOn call called error outcome timeout with ⟨failed, again⟩
  refine ⟨unattached, by decide +kernel, call, error, only, timeout, failed, ?_⟩
  exact congrArg (·.calls) again

end Dispatcher

end OneHost
