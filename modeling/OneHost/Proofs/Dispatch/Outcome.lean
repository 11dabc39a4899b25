import OneHost.Proofs.Dispatch.Contacts

/-!
# What the result of sending says

Each kind of result tells exactly how the contacts with source, transformer and carrier went. The
account is drawn up once, by induction on the attempts, for any number of attempts left and any
addresses tried before; the statement about `send` is the case of three attempts and no address.
-/

namespace OneHost.Dispatcher

variable {σ : Type}

/-- How contacts and result belong together. -/
structure Account (target : Http.Target) (request : Http.Request) (left : Nat)
    (attempted : List SocketAddress) (contacts : List Contact)
    (result : Except DispatchError Http.Response) : Prop where
  bounded : (Contact.calls contacts).length ≤ left
  inOrder : (Contact.calls contacts).map (fun call => some call.address) <+:
    Contact.endpoints contacts
  retried : ∀ call ∈ (Contact.calls contacts).dropLast, call.TimedOut
  answered : ∀ response, result = .ok response ↔
    ∃ call, (Contact.calls contacts).getLast? = some call ∧ call.outcome = .ok response
  failed : ∀ address error, result = .error (.transport address error) ↔
    ∃ call, (Contact.calls contacts).getLast? = some call ∧ call.address = address ∧
      call.outcome = .error error ∧ error.isConnectTimeout = false
  exhausted : ∀ addresses method uri, result = .error (.retriesExhausted addresses method uri) ↔
    (Contact.calls contacts).length = left ∧ (∀ call ∈ Contact.calls contacts, call.TimedOut) ∧
      attempted ++ (Contact.calls contacts).map (·.address) = addresses ∧
      request.method = method ∧ request.uri = uri
  unserved : ∀ hostname addresses, result = .error (.noHealthyEndpoint hostname addresses) ↔
    none ∈ Contact.endpoints contacts ∧ target.hostname = hostname ∧
      attempted ++ (Contact.calls contacts).map (·.address) = addresses
  unservedLast : none ∈ Contact.endpoints contacts →
    ∀ call ∈ Contact.calls contacts, call.TimedOut
  refused : ∀ error, result = .error (.request error) ↔
    ∃ address before after, target.retarget address.ip after = .error error ∧
      [.handedOut (some address), .changed before after] <:+: contacts
  refusedLast : ∀ address before after error, target.retarget address.ip after = .error error →
    [.handedOut (some address), .changed before after] <:+: contacts →
      [.handedOut (some address), .changed before after] <:+ contacts

/-! ## Attempts that end the sending -/

@[simp] theorem Call.result_eq_ok_iff {call : Call} {response : Http.Response} :
    call.result = .ok response ↔ call.outcome = .ok response := by
  cases outcome : call.outcome <;> simp [Call.result, outcome]

@[simp] theorem Call.result_eq_error_iff {call : Call} {error : DispatchError} :
    call.result = .error error ↔
      ∃ cause, call.outcome = .error cause ∧ .transport call.address cause = error := by
  cases outcome : call.outcome <;> simp [Call.result, outcome]

/-- A call shows that its request was aimed, so a refusal can only lie behind it. -/
theorem Attempts.refusal_infix {target : Http.Target} {request before after : Http.Request}
    {attempted : List SocketAddress} {contacts more : List Contact} {call : Call}
    {address : SocketAddress} {error : Http.RequestError}
    (attempt : Attempts target request attempted contacts (.ok call))
    (refusal : target.retarget address.ip after = .error error)
    (within : [.handedOut (some address), .changed before after] <:+: contacts ++ more) :
    [.handedOut (some address), .changed before after] <:+: more := by
  cases attempt with
  | called call changed aimed =>
    simp only [List.cons_append, List.nil_append, List.infix_cons_iff, List.cons_prefix_cons,
      Contact.handedOut.injEq, Option.some.injEq, Contact.changed.injEq, reduceCtorEq, false_and,
      false_or] at within
    rcases within with ⟨rfl, ⟨_, rfl⟩, _⟩ | within
    · rw [aimed] at refusal
      contradiction
    · exact within

theorem Account.of_exhausted (target : Http.Target) (request : Http.Request)
    (attempted : List SocketAddress) :
    Account target request 0 attempted []
      (.error (.retriesExhausted attempted request.method request.uri)) := by
  constructor <;> simp [Contact.calls, Contact.endpoints]

/-- No call was made in an attempt that ended with an error of its own. -/
theorem Account.of_error {target : Http.Target} {request : Http.Request} {left : Nat}
    {attempted : List SocketAddress} {contacts : List Contact} {error : DispatchError}
    (attempt : Attempts target request.copy attempted contacts (.error error)) :
    Account target request (left + 1) attempted contacts (.error error) := by
  cases attempt with
  | noEndpoint =>
    constructor <;> simp [Contact.calls, Contact.endpoints, List.infix_cons_iff]
  | refused address changed error refusal =>
    constructor
    case refused =>
      intro other
      simp only [Except.error.injEq, DispatchError.request.injEq]
      constructor
      · rintro rfl
        exact ⟨address, request.copy, changed, refusal, List.infix_rfl⟩
      · rintro ⟨_, _, _, otherRefusal, within⟩
        obtain ⟨rfl, rfl, rfl⟩ := by simpa using within.eq_of_length rfl
        exact Except.error.inj (refusal.symm.trans otherRefusal)
    case refusedLast =>
      intro other before after _ _ within
      exact (within.eq_of_length rfl) ▸ List.suffix_rfl
    all_goals simp [Contact.calls, Contact.endpoints]

/-- A call that is not to be repeated decides the result. -/
theorem Account.of_settled {target : Http.Target} {request : Http.Request} {left : Nat}
    {attempted : List SocketAddress} {contacts : List Contact} {call : Call}
    (attempt : Attempts target request.copy attempted contacts (.ok call))
    (final : ¬call.TimedOut) :
    Account target request (left + 1) attempted contacts call.result := by
  have unrefused {address before after error}
      (refusal : target.retarget address.ip after = .error error) :
      ¬[.handedOut (some address), .changed before after] <:+: contacts := by
    intro within
    rw [← List.append_nil contacts] at within
    simpa using attempt.refusal_infix refusal within
  cases attempt with
  | called call changed aimed =>
    constructor
    case failed =>
      intro address error
      simp only [Call.result_eq_error_iff, DispatchError.transport.injEq, Contact.calls]
      constructor
      · rintro ⟨cause, outcome, rfl, rfl⟩
        have kind : cause.isConnectTimeout = false := by simpa [Call.TimedOut, outcome] using final
        exact ⟨call, rfl, rfl, outcome, kind⟩
      · rintro ⟨last, isLast, rfl, outcome, _⟩
        obtain rfl : call = last := by simpa using isLast
        exact ⟨error, outcome, rfl, rfl⟩
    case refused =>
      intro error
      refine iff_of_false (by simp) ?_
      rintro ⟨_, _, _, refusal, within⟩
      exact unrefused refusal within
    case refusedLast => exact fun _ _ _ _ refusal within => absurd within (unrefused refusal)
    all_goals simp [Contact.calls, Contact.endpoints, final]

/-- Whatever a call is not, the last of the calls after it decides. -/
theorem last_cons_iff {call : Call} {calls : List Call} {property : Call → Prop}
    (unmet : ¬property call) :
    (∃ last, (call :: calls).getLast? = some last ∧ property last) ↔
      ∃ last, calls.getLast? = some last ∧ property last := by
  cases calls with
  | nil => simp [unmet]
  | cons next calls => rw [List.getLast?_cons_cons]

/-- An attempt without a connection in time leaves the result to those that follow. -/
theorem Account.again {target : Http.Target} {request : Http.Request} {left : Nat}
    {attempted : List SocketAddress} {contacts more : List Contact} {call : Call}
    {result : Except DispatchError Http.Response}
    (attempt : Attempts target request.copy attempted contacts (.ok call))
    (timedOut : call.TimedOut)
    (rest : Account target request left (attempted ++ [call.address]) more result) :
    Account target request (left + 1) attempted (contacts ++ more) result := by
  have calls : Contact.calls (contacts ++ more) = call :: Contact.calls more := by
    rw [Contact.calls_append, attempt.calls_eq]
    rfl
  have endpoints : Contact.endpoints (contacts ++ more) =
      some call.address :: Contact.endpoints more := by
    cases attempt
    rfl
  obtain ⟨cause, outcome, timeout⟩ := timedOut
  have timedOut : call.TimedOut := ⟨cause, outcome, timeout⟩
  constructor
  case bounded => simpa [calls] using rest.bounded
  case inOrder => simpa [calls, endpoints] using rest.inOrder
  case retried =>
    rw [calls]
    cases found : Contact.calls more with
    | nil => simp
    | cons next others =>
      have retried := rest.retried
      rw [found] at retried
      simpa [timedOut] using retried
  case answered =>
    intro response
    rw [rest.answered, calls, last_cons_iff]
    simp [outcome]
  case failed =>
    intro address error
    rw [rest.failed, calls, last_cons_iff]
    rintro ⟨_, other, kind⟩
    rw [outcome, Except.error.injEq] at other
    rw [other, kind] at timeout
    contradiction
  case exhausted => simpa [calls, timedOut] using rest.exhausted
  case unserved => simpa [calls, endpoints] using rest.unserved
  case unservedLast => simpa [calls, endpoints, timedOut] using rest.unservedLast
  case refused =>
    intro error
    rw [rest.refused]
    constructor
    · rintro ⟨address, before, after, refusal, within⟩
      exact ⟨address, before, after, refusal,
        within.trans (List.suffix_append contacts more).isInfix⟩
    · rintro ⟨address, before, after, refusal, within⟩
      exact ⟨address, before, after, refusal, attempt.refusal_infix refusal within⟩
  case refusedLast =>
    intro address before after error refusal within
    have last := rest.refusedLast address before after error refusal
      (attempt.refusal_infix refusal within)
    exact last.trans (List.suffix_append contacts more)

theorem Delivers.account {target : Http.Target} {request : Http.Request} {left : Nat}
    {attempted : List SocketAddress} {contacts : List Contact}
    {result : Except DispatchError Http.Response}
    (delivers : Delivers target request left attempted contacts result) :
    Account target request left attempted contacts result := by
  induction delivers with
  | exhausted attempted => exact .of_exhausted target request attempted
  | failed attempt => exact .of_error attempt
  | settled attempt final => exact .of_settled attempt final
  | again attempt timedOut _ ih => exact .again attempt timedOut ih

/-! ## Sending -/

/-- Whatever the source hands out, the transformer makes of a request and the carrier answers: at
most three calls are made, to the endpoints in the order in which they were handed out, and all but
the last of them found no connection in time. The result is the response or the failure of the last
call, unless that found no connection in time either; it carries the addresses tried if three calls
found none or if the source had nothing to hand out; and it is a fault of the request just when that
could not be aimed, in which case nothing more is done. -/
theorem send_outcome (dispatcher : Dispatcher σ) (surroundings : Surroundings σ)
    (request : Http.Request) (state : σ) :
    let delivery := dispatcher.send surroundings request state
    let contacts := dispatcher.contacts surroundings request state
    let calls := Contact.calls contacts
    let handedOut := Contact.endpoints contacts
    (dispatcher.recorded.send surroundings.recorded request (state, [])).state =
        (delivery.state, contacts) ∧
      delivery.calls = calls ∧
      calls.length ≤ 3 ∧
      calls.map (fun call => some call.address) <+: handedOut ∧
      (∀ call ∈ calls.dropLast, call.TimedOut) ∧
      (∀ response, delivery.result = .ok response ↔
        ∃ call, calls.getLast? = some call ∧ call.outcome = .ok response) ∧
      (∀ address error, delivery.result = .error (.transport address error) ↔
        ∃ call, calls.getLast? = some call ∧ call.address = address ∧
          call.outcome = .error error ∧ error.isConnectTimeout = false) ∧
      (∀ addresses method uri, delivery.result = .error (.retriesExhausted addresses method uri) ↔
        calls.length = 3 ∧ (∀ call ∈ calls, call.TimedOut) ∧
          calls.map (·.address) = addresses ∧ request.method = method ∧ request.uri = uri) ∧
      (∀ hostname addresses, delivery.result = .error (.noHealthyEndpoint hostname addresses) ↔
        none ∈ handedOut ∧ dispatcher.target.hostname = hostname ∧
          calls.map (·.address) = addresses) ∧
      (none ∈ handedOut → ∀ call ∈ calls, call.TimedOut) ∧
      (∀ error, delivery.result = .error (.request error) ↔
        ∃ address before after, dispatcher.target.retarget address.ip after = .error error ∧
          [.handedOut (some address), .changed before after] <:+: contacts) ∧
      ∀ address before after error, dispatcher.target.retarget address.ip after = .error error →
        [.handedOut (some address), .changed before after] <:+: contacts →
          [.handedOut (some address), .changed before after] <:+ contacts := by
  obtain ⟨delivers, calls, recorded⟩ := send_recorded dispatcher surroundings request state
  have account := delivers.account
  exact ⟨recorded, calls, account.bounded, account.inOrder, account.retried, account.answered,
    account.failed, account.exhausted, account.unserved, account.unservedLast, account.refused,
    account.refusedLast⟩

end OneHost.Dispatcher
