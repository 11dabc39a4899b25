import Mathlib.Data.List.Nodup
import OneHost.Proofs.Dispatch.Repetition
import OneHost.Proofs.Pool.Rounds
import OneHost.Proofs.Pool.Turns

/-!
# How many endpoints may be out of reach

A dispatcher that has the endpoints of a rotation to itself goes round among those that are up, from
wherever the cursor stands. It does not come back to one before it has been to all of them or has
used up its attempts, so it gets through as long as fewer of them are out of reach than it tries.
-/

namespace OneHost

variable {σ : Type}

namespace Dispatcher

open Pool (Roster circling)

variable {dispatcher : Dispatcher σ} {surroundings : Surroundings σ}
variable {roster : σ → Roster} {among : σ → Prop}
variable {target : Http.Target} {request : Http.Request} {state : σ}

/-- In some states, which are not left, the endpoints come from the rotation of a roster, on which
nobody else takes a turn and where no one's health changes. -/
structure Undisturbed (dispatcher : Dispatcher σ) (surroundings : Surroundings σ)
    (roster : σ → Roster) (among : σ → Prop) : Prop where
  stays : Keeps dispatcher surroundings fun _ => among
  source : ∀ {state}, among state →
    (surroundings.next state).1 = (roster state).next.1.map (·.address)
  next : ∀ {state}, among state →
    (roster state).next.2.SameTurns (roster (surroundings.next state).2)
  transform : ∀ {state} request, among state →
    (roster state).SameTurns (roster (dispatcher.transform request state).2)
  exchange : ∀ {state} address request, among state →
    (roster state).SameTurns (roster (surroundings.exchange address request state).2)

/-! ## Round the circle -/

/-- The endpoints that were handed out are those that come one after the other on a circle of
members, from where a cursor stood, and the cursor has counted them. -/
structure Circles (roster : σ → Roster) (members : List SocketAddress) (cursor : UInt64)
    (state : σ × List Contact) : Prop where
  up : (roster state.1).up = members
  counted : members ≠ [] → (roster state.1).rotation.cursor =
    cursor + UInt64.ofNat (Contact.endpoints state.2).length
  handedOut : cursor.toNat + (Contact.endpoints state.2).length ≤ 2 ^ 64 →
    Contact.endpoints state.2 =
      circling members cursor.toNat (Contact.endpoints state.2).length

namespace Circles

variable {members : List SocketAddress} {cursor : UInt64} {state after : σ × List Contact}

/-- What neither touches the roster nor is a turn changes nothing. -/
theorem of_same (circles : Circles roster members cursor state)
    (sameTurns : (roster state.1).SameTurns (roster after.1))
    (noTurn : Contact.endpoints after.2 = Contact.endpoints state.2) :
    Circles roster members cursor after := by
  constructor
  · rw [sameTurns.up, circles.up]
  · intro nonempty
    rw [sameTurns.rotation, noTurn, circles.counted nonempty]
  · rw [noTurn]
    exact circles.handedOut

/-- A turn goes to the next one on the circle. -/
theorem turn (circles : Circles roster members cursor state)
    (sameTurns : (roster state.1).next.2.SameTurns (roster after.1))
    (isTurn : Contact.endpoints after.2 =
      Contact.endpoints state.2 ++ [(roster state.1).next.1.map (·.address)]) :
    Circles roster members cursor after := by
  have nextUp : (roster state.1).next.1.map (·.address) =
      members[(roster state.1).rotation.cursor.toNat % members.length]? := by
    rw [Roster.next_eq_up, circles.up]
  constructor
  · rw [sameTurns.up, Roster.up_next, circles.up]
  · intro nonempty
    have someUp : (roster state.1).up ≠ [] := circles.up ▸ nonempty
    rw [sameTurns.rotation, Roster.cursor_next someUp, circles.counted nonempty, isTurn,
      List.length_append, UInt64.ofNat_add, ← UInt64.add_assoc]
    rfl
  · intro bounded
    rw [isTurn, List.length_append, List.length_singleton] at bounded ⊢
    have before := circles.handedOut (Nat.le_of_succ_le bounded)
    rw [Pool.circling_append, ← before, Pool.circling_one, nextUp]
    cases members with
    | nil => rfl
    | cons first others =>
      have stands : (roster state.1).rotation.cursor.toNat =
          cursor.toNat + (Contact.endpoints state.2).length := by
        rw [circles.counted (List.cons_ne_nil first others), Roster.toNat_moved bounded]
      rw [stands]

end Circles

theorem Undisturbed.circles (undisturbed : dispatcher.Undisturbed surroundings roster among)
    (members : List SocketAddress) (cursor : UInt64) :
    Keeps dispatcher.recorded surroundings.recorded fun _ state =>
      among state.1 ∧ Circles roster members cursor state := by
  constructor
  · intro calls state holds
    constructor
    · exact @(undisturbed.stays).next [] _ holds.1
    · apply holds.2.turn (undisturbed.next holds.1)
      simp [Surroundings.recorded, Contact.endpoints, undisturbed.source holds.1]
  · intro calls state request holds
    constructor
    · exact @(undisturbed.stays).transform [] _ request holds.1
    · apply holds.2.of_same (undisturbed.transform request holds.1)
      simp [recorded, Contact.endpoints]
  · intro calls state address request holds
    constructor
    · exact @(undisturbed.stays).exchange [] _ address request holds.1
    · apply holds.2.of_same (undisturbed.exchange address request holds.1)
      simp [Surroundings.recorded, Contact.endpoints]

/-- No more endpoints are asked for than attempts are left. -/
theorem Delivers.endpoints_length {left : Nat} {attempted : List SocketAddress}
    {contacts : List Contact} {result : Except DispatchError Http.Response}
    (delivers : Delivers target request left attempted contacts result) :
    (Contact.endpoints contacts).length ≤ left := by
  induction delivers with
  | exhausted => exact Nat.le_refl 0
  | failed attempt | settled attempt => simp [attempt.endpoints_length]
  | again attempt _ _ ih =>
    rw [Contact.endpoints_append, List.length_append, attempt.endpoints_length, Nat.add_comm]
    exact Nat.succ_le_succ ih

/-- A sending goes round among those that are up, for as many attempts as it makes. -/
theorem Undisturbed.goes_round
    (undisturbed : dispatcher.Undisturbed surroundings roster among) (request : Http.Request)
    (begins : among state)
    (bounded : (roster state).rotation.cursor.toNat + maxAttempts < 2 ^ 64) :
    Contact.endpoints (dispatcher.contacts surroundings request state) <+:
      circling (roster state).up (roster state).rotation.cursor.toNat maxAttempts := by
  have start : Circles roster (roster state).up (roster state).rotation.cursor (state, []) := by
    constructor <;> simp [Contact.endpoints, circling]
  have circles : Circles roster (roster state).up (roster state).rotation.cursor
      (dispatcher.recorded.send surroundings.recorded request (state, [])).state :=
    (@Keeps.send _ _ _ _ (state, []) (undisturbed.circles _ _) request ⟨begins, start⟩).2
  have few := (send_recorded dispatcher surroundings request state).1.endpoints_length
  rw [contacts] at few ⊢
  rw [circles.handedOut (by omega)]
  exact Pool.prefix_circling few

/-! ## Getting through -/

section GettingThrough

variable {members : List SocketAddress} {cursor : Nat} {handedOut : List (Option SocketAddress)}

/-- Nobody is tried twice on the first round. -/
theorem nodup_tried (apart : members.Nodup)
    (goesRound : handedOut <+: circling members cursor maxAttempts) :
    (handedOut.take (min maxAttempts members.length)).Nodup := by
  have first : handedOut.take (min maxAttempts members.length) <+:
      circling members cursor (min maxAttempts members.length) := by
    apply List.prefix_of_prefix_length_le ((List.take_prefix _ _).trans goesRound)
    · exact Pool.prefix_circling (Nat.min_le_left _ _)
    · rw [Pool.length_circling]
      exact List.length_take_le _ _
  exact first.sublist.nodup (Pool.nodup_circling apart (Nat.min_le_right _ _))

/-- If all attempts find no connection in time, they do so at as many addresses as there are
attempts or members. -/
theorem le_length_of_timedOut {calls : List Call} {down : List SocketAddress}
    (isTried : calls.map (fun call => some call.address) <+: handedOut)
    (apart : (handedOut.take (min maxAttempts members.length)).Nodup)
    (exhausted : calls.length = maxAttempts) (areDown : ∀ call ∈ calls, call.address ∈ down) :
    min maxAttempts members.length ≤ down.length := by
  have tried : ((calls.map (·.address)).take (min maxAttempts members.length)).Nodup := by
    have first := (isTried.take (min maxAttempts members.length)).sublist.nodup apart
    apply List.Nodup.of_map some
    rw [List.map_take, List.map_map]
    exact first
  have among : (calls.map (·.address)).take (min maxAttempts members.length) ⊆ down := by
    intro address isTried
    rcases List.mem_map.mp (List.mem_of_mem_take isTried) with ⟨call, made, rfl⟩
    exact areDown call made
  have fits := List.Nodup.length_le_of_subset tried among
  rw [List.length_take, List.length_map, exhausted] at fits
  rw [Nat.min_eq_left (Nat.min_le_left _ _)] at fits
  exact fits

end GettingThrough

/-- A result that no other cause has is that of the last call. -/
theorem Account.decided {left : Nat} {attempted : List SocketAddress} {contacts : List Contact}
    {result : Except DispatchError Http.Response}
    (account : Account target request left attempted contacts result)
    (unexhausted : ∀ addresses method uri,
      result ≠ .error (.retriesExhausted addresses method uri))
    (served : ∀ hostname addresses, result ≠ .error (.noHealthyEndpoint hostname addresses))
    (aimed : ∀ error, result ≠ .error (.request error)) :
    ∃ call, (Contact.calls contacts).getLast? = some call ∧ ¬call.TimedOut ∧
      result = call.result := by
  cases result with
  | ok response =>
    rcases (account.answered response).mp rfl with ⟨call, isLast, outcome⟩
    have inTime : ¬call.TimedOut := by simp [Call.TimedOut, outcome]
    exact ⟨call, isLast, inTime, (Call.result_eq_ok_iff.mpr outcome).symm⟩
  | error error =>
    cases error with
    | transport address cause =>
      rcases (account.failed address cause).mp rfl with ⟨call, isLast, rfl, outcome, kind⟩
      have inTime : ¬call.TimedOut := by simp [Call.TimedOut, outcome, kind]
      exact ⟨call, isLast, inTime, (Call.result_eq_error_iff.mpr ⟨cause, outcome, rfl⟩).symm⟩
    | retriesExhausted addresses method uri => exact absurd rfl (unexhausted addresses method uri)
    | noHealthyEndpoint hostname addresses => exact absurd rfl (served hostname addresses)
    | request error => exact absurd rfl (aimed error)

/-- Whatever is refused was changed for an endpoint that is up. -/
theorem Undisturbed.unrefused (undisturbed : dispatcher.Undisturbed surroundings roster among)
    (begins : among state)
    (bounded : (roster state).rotation.cursor.toNat + maxAttempts < 2 ^ 64)
    (accepted : ∀ address ∈ (roster state).up, ∀ before, among before →
      ∃ aimed, dispatcher.target.retarget address.ip
        (dispatcher.transform request.copy before).1 = .ok aimed)
    (error : Http.RequestError) :
    (dispatcher.send surroundings request state).result ≠ .error (.request error) := by
  intro refused
  have delivers := (send_recorded dispatcher surroundings request state).1
  rcases (delivers.account.refused error).mp refused with
    ⟨address, given, changed, refusal, within⟩
  have isUp : address ∈ (roster state).up := by
    have handedOut : some address ∈
        Contact.endpoints (dispatcher.contacts surroundings request state) :=
      List.mem_filterMap.mpr ⟨_, within.subset List.mem_cons_self, rfl⟩
    exact Pool.mem_of_mem_circling
      ((undisturbed.goes_round request begins bounded).subset handedOut)
  have isChange : (given, changed) ∈
      Contact.changes (dispatcher.contacts surroundings request state) :=
    List.mem_filterMap.mpr ⟨.changed given changed, within.subset (by simp), rfl⟩
  have isCopy := delivers.startsAfresh.given _ isChange
  rcases undisturbed.stays.changed request begins _ isChange with ⟨before, isAmong, becomes⟩
  rcases accepted address isUp before isAmong with ⟨aimed, isAimed⟩
  rw [← isCopy, ← becomes, refusal] at isAimed
  contradiction

/-- A dispatcher that has a rotation to itself, with the same endpoints up all the time and none at
the address of another, tries them one after the other from where the cursor stands, and up to three
of them without coming back to one. If fewer than this are out of reach, the sending ends neither
for want of an endpoint nor because the attempts are used up, and if the request can be aimed at each
of them it ends with a call that found a connection in time. -/
theorem survives_endpoints_down (undisturbed : dispatcher.Undisturbed surroundings roster among)
    (request : Http.Request) (begins : among state) (apart : (roster state).up.Nodup)
    (bounded : (roster state).rotation.cursor.toNat + 3 < 2 ^ 64) :
    let up := (roster state).up
    let delivery := dispatcher.send surroundings request state
    let handedOut := Contact.endpoints (dispatcher.contacts surroundings request state)
    handedOut <+: circling up (roster state).rotation.cursor.toNat 3 ∧
      delivery.calls.map (fun call => some call.address) <+: handedOut ∧
      (handedOut.take (min 3 up.length)).Nodup ∧
      ∀ down : List SocketAddress, down.length < min 3 up.length →
        (∀ call ∈ delivery.calls, call.TimedOut → call.address ∈ down) →
          (∀ addresses method uri,
            delivery.result ≠ .error (.retriesExhausted addresses method uri)) ∧
          (∀ hostname addresses,
            delivery.result ≠ .error (.noHealthyEndpoint hostname addresses)) ∧
          ((∀ address ∈ up, ∀ before, among before →
              ∃ aimed, dispatcher.target.retarget address.ip
                (dispatcher.transform request.copy before).1 = .ok aimed) →
            ∃ call, delivery.calls.getLast? = some call ∧ ¬call.TimedOut ∧
              delivery.result = call.result) := by
  intro up delivery handedOut
  have goesRound := undisturbed.goes_round request begins bounded
  rcases send_recorded dispatcher surroundings request state with ⟨delivers, calls, _⟩
  have account := delivers.account
  have isTried : delivery.calls.map (fun call => some call.address) <+: handedOut :=
    calls ▸ account.inOrder
  have tried := nodup_tried apart goesRound
  refine ⟨goesRound, isTried, tried, ?_⟩
  intro down few areDown
  have unexhausted : ∀ addresses method uri,
      delivery.result ≠ .error (.retriesExhausted addresses method uri) := by
    intro addresses method uri exhausted
    rcases (account.exhausted addresses method uri).mp exhausted with ⟨all, late, _⟩
    rw [← calls] at all late
    have enough := le_length_of_timedOut isTried tried all fun call made =>
      areDown call made (late call made)
    exact Nat.not_le.mpr few enough
  have served : ∀ hostname addresses,
      delivery.result ≠ .error (.noHealthyEndpoint hostname addresses) := by
    intro hostname addresses unserved
    have missed := ((account.unserved hostname addresses).mp unserved).1
    apply @Pool.none_notMem_circling _ up _ 3 _ (goesRound.subset missed)
    intro nobody
    simp [nobody] at few
  refine ⟨unexhausted, served, ?_⟩
  intro accepted
  rw [calls]
  exact account.decided unexhausted served (undisturbed.unrefused begins bounded accepted)

/-! ## Two of three -/

/-- A roster by itself, with a carrier whose answers depend on nothing but the call. -/
def onRoster (answer : SocketAddress → Http.Request → Except TransportError Http.Response) :
    Surroundings Roster where
  next roster := (roster.next.1.map (·.address), roster.next.2)
  exchange address request roster := (answer address request, roster)

theorem undisturbed_onRoster (target : Http.Target) (change : Http.Request → Http.Request)
    (answer : SocketAddress → Http.Request → Except TransportError Http.Response) :
    (ofChange target change).Undisturbed (onRoster answer) id fun _ => True := by
  constructor
  · constructor <;> simp
  · intro roster _
    rfl
  · intro roster _
    exact Roster.SameTurns.refl _
  · intro roster request _
    exact Roster.SameTurns.refl _
  · intro roster address request _
    exact Roster.SameTurns.refl _

/-- One of some endpoints. -/
def atHost (last : UInt8) : SocketAddress := ⟨.v4 ⟨10, 0, 0, last⟩, 80⟩

/-- Three endpoints that are up, with the cursor on its second round. -/
def threeUp : Roster where
  endpoints := [.byHand (atHost 1) true, .byHand (atHost 2) true, .byHand (atHost 3) true]
  rotation := { members := [0, 1, 2], cursor := 5 }

/-- Only the second endpoint can be reached. -/
def onlySecond (address : SocketAddress) (_ : Http.Request) :
    Except TransportError Http.Response :=
  if address = atHost 2 then .ok { status := 200 }
  else .error (.connectTimeout address ⟨1000⟩)

/-- Both others are tried before, and the request gets through. -/
theorem survives_endpoints_down_twoOfThree :
    let delivery := (ofChange ⟨.http, "api", 80⟩ id).send (onRoster onlySecond) bare threeUp
    threeUp.up = [atHost 1, atHost 2, atHost 3] ∧
      delivery.calls.map (·.address) = [atHost 3, atHost 1, atHost 2] ∧
      ∃ call, delivery.calls.getLast? = some call ∧ ¬call.TimedOut ∧
        delivery.result = call.result := by
  intro delivery
  have isUp : threeUp.up = [atHost 1, atHost 2, atHost 3] := by decide +kernel
  have apart : threeUp.up.Nodup := by decide +kernel
  have bounded : threeUp.rotation.cursor.toNat + 3 < 2 ^ 64 := by decide +kernel
  rcases @survives_endpoints_down _ _ _ _ _ threeUp
    (undisturbed_onRoster ⟨.http, "api", 80⟩ id onlySecond) bare trivial apart bounded with
    ⟨_, _, _, survives⟩
  have few : [atHost 1, atHost 3].length < min 3 threeUp.up.length := by decide +kernel
  have areDown : ∀ call ∈ delivery.calls, call.TimedOut →
      call.address ∈ [atHost 1, atHost 3] := by
    have reached : ∀ call ∈ delivery.calls,
        call.outcome.isOk = true ∨ call.address ∈ [atHost 1, atHost 3] := by
      decide +kernel
    intro call made timedOut
    cases reached call made with
    | inl inTime =>
      rcases timedOut with ⟨error, outcome, _⟩
      simp [outcome, Except.isOk, Except.toBool] at inTime
    | inr isDown => exact isDown
  have accepted : ∀ address ∈ threeUp.up, ∀ before : Roster, True →
      ∃ aimed, Http.Target.retarget ⟨.http, "api", 80⟩ address.ip
        ((ofChange ⟨.http, "api", 80⟩ id).transform bare.copy before).1 = .ok aimed := by
    have allAimed : ∀ address ∈ threeUp.up,
        (Http.Target.retarget ⟨.http, "api", 80⟩ address.ip bare.copy).isOk = true := by
      decide +kernel
    intro address among before _
    have isAimed := allAimed address among
    cases aim : Http.Target.retarget ⟨.http, "api", 80⟩ address.ip bare.copy with
    | ok aimed => exact ⟨aimed, aim⟩
    | error error => simp [aim, Except.isOk, Except.toBool] at isAimed
  exact ⟨isUp, by decide +kernel, (survives _ few areDown).2.2 accepted⟩

end Dispatcher

end OneHost
