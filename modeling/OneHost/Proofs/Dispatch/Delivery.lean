import Mathlib.Data.List.MinMax
import OneHost.Proofs.Connection.Progress
import OneHost.Proofs.Dispatch.Outcome

/-!
# Requests that go through a transport

A dispatcher sends its requests through a transport that has other things to do as well: other sends
go on, connections close, addresses are evicted. All of this is left open. It is a list of inputs
for each time span, which may be chosen with regard to everything that has happened before; the only
thing that nobody else can do is to ask for a send under the number of one of the attempts.

If the send of an attempt has no result when the inputs of the attempt are over, the dispatcher does
not wait for it any longer, and tries no other endpoint. The send may go on in what happens later.
-/

namespace OneHost

open Connection (Channel Effect Input Limits Transport asked)

/-- What surrounds a transport: the source of endpoints, with what happens before it answers, and
what happens while an attempt is under way that has a number and sends a request to an address. -/
structure Outside (ρ : Type) where
  next : List Input → ρ → Option SocketAddress × List Input × ρ
  during : Nat → SocketAddress → Http.Request → List Input → ρ → List Input × ρ

/-- An attempt to send a request: the number of its send, and the call that it made. -/
structure Attempt where
  number : Nat
  call : Dispatcher.Call

/-- All that has happened to a transport, the state of its surroundings, and the attempts, in their
order. -/
structure Traffic (ρ : Type) where
  inputs : List Input
  outside : ρ
  sent : List Attempt := []

namespace Traffic

variable {ρ : Type}

/-- A number under which no send was asked for. -/
def number (traffic : Traffic ρ) : Nat :=
  (asked traffic.inputs).foldr max 0 + 1

/-- The inputs among some others that do not ask for a send under one of some numbers. -/
def foreign (own : List Nat) (inputs : List Input) : List Input :=
  inputs.filter fun input => input.asks?.all (· ∉ own)

/-- The numbers of the attempts. -/
def own (traffic : Traffic ρ) : List Nat :=
  traffic.sent.map (·.number)

/-- What happens from the beginning of an attempt on, when others do something as well. -/
def begun (traffic : Traffic ρ) (address : SocketAddress) (request : Http.Request)
    (others : List Input) : List Input :=
  .send traffic.number address request :: foreign (traffic.number :: traffic.own) others

/-- The result of a send that an effect tells of, if it is the send of a number. -/
def resultOf? (id : Nat) : Effect → Option (Except TransportError Http.Response)
  | .finished other result => if other = id then some result else none
  | _ => none

/-- The result of the send of a number, if there is one among the effects. -/
def result (id : Nat) (address : SocketAddress) (effects : List Effect) :
    Except TransportError Http.Response :=
  (effects.findSome? (resultOf? id)).getD (.error (.http address none))

end Traffic

variable {ρ : Type}

/-- A transport in its surroundings, from its start on. -/
def Outside.surroundings (outside : Outside ρ) (start : Transport) : Surroundings (Traffic ρ) where
  next traffic :=
    let (endpoint, others, after) := outside.next traffic.inputs traffic.outside
    (endpoint,
      { traffic with
        inputs := traffic.inputs ++ Traffic.foreign traffic.own others
        outside := after })
  exchange address request traffic :=
    let id := traffic.number
    let (others, after) := outside.during id address request traffic.inputs traffic.outside
    let inputs := traffic.inputs ++ traffic.begun address request others
    let outcome := Traffic.result id address (start.run inputs).2
    (outcome,
      { inputs, outside := after, sent := traffic.sent ++ [⟨id, address, request, outcome⟩] })

/-- A dispatcher whose requests go through a transport. What it does to them may depend on the
surroundings. -/
def Dispatcher.inTraffic (dispatcher : Dispatcher ρ) : Dispatcher (Traffic ρ) where
  target := dispatcher.target
  transform request traffic :=
    let (request, outside) := dispatcher.transform request traffic.outside
    (request, { traffic with outside })

namespace Traffic

variable {traffic : Traffic ρ} {start : Transport} {id : Nat}

theorem number_notMem (traffic : Traffic ρ) : traffic.number ∉ asked traffic.inputs := by
  intro isAsked
  exact Nat.not_succ_le_self _ (List.le_max_of_le' 0 isAsked (Nat.le_refl _))

theorem notMem_foreign (own : List Nat) (isOwn : id ∈ own) (inputs : List Input) :
    id ∉ asked (foreign own inputs) := by
  intro isAsked
  obtain ⟨input, among, asks⟩ := List.mem_filterMap.mp isAsked
  have apart := (List.mem_filter.mp among).2
  simp [asks, isOwn] at apart

theorem count_number (traffic : Traffic ρ) (address : SocketAddress) (request : Http.Request)
    (others : List Input) :
    (asked (traffic.inputs ++ traffic.begun address request others)).count traffic.number = 1 := by
  have before := List.count_eq_zero.mpr traffic.number_notMem
  have later := List.count_eq_zero.mpr
    (notMem_foreign (traffic.number :: traffic.own) (.head _) others)
  have now : asked (traffic.begun address request others) =
    traffic.number :: asked (foreign (traffic.number :: traffic.own) others) := rfl
  rw [Connection.asked_append, List.count_append, before, now, List.count_cons_self, later]

theorem eq_of_resultOf? {effect : Effect} {outcome : Except TransportError Http.Response}
    (found : resultOf? id effect = some outcome) : effect = .finished id outcome := by
  unfold resultOf? at found
  split at found
  · split at found
    · rename_i own
      cases found
      rw [own]
    · contradiction
  · contradiction

theorem finished_of_result {address : SocketAddress} {effects : List Effect}
    {error : TransportError} (fails : result id address effects = .error error)
    (timeout : error.isConnectTimeout = true) : .finished id (.error error) ∈ effects := by
  unfold result at fails
  cases found : effects.findSome? (resultOf? id) with
  | none =>
    rw [found] at fails
    cases fails
    contradiction
  | some outcome =>
    rw [found] at fails
    cases fails
    obtain ⟨effect, among, isResult⟩ := List.exists_of_findSome?_eq_some found
    exact eq_of_resultOf? isResult ▸ among

/-- What is known of the attempts: each has asked for a send under a number of its own, and if one
found no connection in time, then the transport has said so. -/
structure Tracked (start : Transport) (traffic : Traffic ρ) : Prop where
  asks : ∀ attempt ∈ traffic.sent,
    .send attempt.number attempt.call.address attempt.call.request ∈ traffic.inputs
  once : ∀ id ∈ traffic.own, (asked traffic.inputs).count id ≤ 1
  distinct : traffic.own.Nodup
  timedOut : ∀ attempt ∈ traffic.sent, attempt.call.TimedOut →
    ∃ error, .finished attempt.number (.error error) ∈ (start.run traffic.inputs).2 ∧
      error.isConnectTimeout = true

namespace Tracked

theorem of_none (start : Transport) (inputs : List Input) (outside : ρ) :
    Tracked start { inputs, outside } := by
  constructor <;> simp [own]

theorem number_notMem_own (tracked : traffic.Tracked start) : traffic.number ∉ traffic.own := by
  intro isOwn
  obtain ⟨attempt, among, own⟩ := List.mem_map.mp isOwn
  have isAsked : attempt.number ∈ asked traffic.inputs :=
    Connection.mem_asked (tracked.asks attempt among) rfl
  exact traffic.number_notMem (own ▸ isAsked)

/-- Whatever others do, they do not ask for sends under the numbers of the attempts. -/
theorem happens (tracked : traffic.Tracked start) {later : List Input}
    (apart : ∀ id ∈ traffic.own, id ∉ asked later) (outside : ρ) :
    Tracked start { traffic with inputs := traffic.inputs ++ later, outside } where
  asks attempt among := List.mem_append_left _ (tracked.asks attempt among)
  once id isOwn := by
    rw [Connection.asked_append, List.count_append, List.count_eq_zero.mpr (apart id isOwn)]
    exact tracked.once id isOwn
  distinct := tracked.distinct
  timedOut attempt among timedOut := by
    obtain ⟨error, told, timeout⟩ := tracked.timedOut attempt among timedOut
    refine ⟨error, ?_, timeout⟩
    rw [Transport.run_append]
    exact List.mem_append_left _ told

theorem attempt (tracked : traffic.Tracked start) {attempt : Attempt}
    (asks : .send attempt.number attempt.call.address attempt.call.request ∈ traffic.inputs)
    (once : (asked traffic.inputs).count attempt.number ≤ 1) (isNew : attempt.number ∉ traffic.own)
    (timedOut : attempt.call.TimedOut →
      ∃ error, .finished attempt.number (.error error) ∈ (start.run traffic.inputs).2 ∧
        error.isConnectTimeout = true) :
    Tracked start { traffic with sent := traffic.sent ++ [attempt] } := by
  have own : own { traffic with sent := traffic.sent ++ [attempt] } =
      traffic.own ++ [attempt.number] := List.map_append
  constructor
  case asks => exact List.forall_mem_append.mpr ⟨tracked.asks, by simpa using asks⟩
  case once =>
    rw [own]
    exact List.forall_mem_append.mpr ⟨tracked.once, by simpa using once⟩
  case distinct =>
    rw [own, List.nodup_append_comm]
    exact List.nodup_cons.mpr ⟨isNew, tracked.distinct⟩
  case timedOut => exact List.forall_mem_append.mpr ⟨tracked.timedOut, by simpa using timedOut⟩

theorem exchange (tracked : traffic.Tracked start) (outside : Outside ρ) (address : SocketAddress)
    (request : Http.Request) :
    Tracked start ((outside.surroundings start).exchange address request traffic).2 := by
  have apart : ∀ id ∈ traffic.own, id ∉ asked (traffic.begun address request
      (outside.during traffic.number address request traffic.inputs traffic.outside).1) := by
    intro id isOwn isAsked
    cases List.mem_cons.mp isAsked with
    | inl same => exact tracked.number_notMem_own (same ▸ isOwn)
    | inr later => exact notMem_foreign _ (.tail _ isOwn) _ later
  refine (tracked.happens apart _).attempt (by simp [begun]) ?_ tracked.number_notMem_own ?_
  · exact Nat.le_of_eq (traffic.count_number address request _)
  · rintro ⟨error, fails, timeout⟩
    exact ⟨error, finished_of_result fails timeout, timeout⟩

/-! ### What the transport does for the attempts -/

variable {channel : Channel} {connectTimeout : Duration} {limits : Limits}

theorem course (tracked : traffic.Tracked (.make channel connectTimeout limits))
    {attempt : Attempt} (among : attempt ∈ traffic.sent) :
    Transport.Course attempt.number traffic.inputs
      ((Transport.make channel connectTimeout limits).run traffic.inputs).2
      ((Transport.make channel connectTimeout limits).run traffic.inputs).1 :=
  .of_run (by simp [Transport.make]) (tracked.once _ (List.mem_map_of_mem among))

/-- An attempt that found no connection in time has done nothing but look for one. -/
theorem unconnected (tracked : traffic.Tracked (.make channel connectTimeout limits))
    {attempt : Attempt} (among : attempt ∈ traffic.sent)
    (timedOut : attempt.call.TimedOut) :
    ∀ effect ∈ ((Transport.make channel connectTimeout limits).run traffic.inputs).2,
      effect.about? = some attempt.number → effect.progress = 0 := by
  obtain ⟨error, told, timeout⟩ := tracked.timedOut attempt among timedOut
  exact (tracked.course among).timedOut error told timeout

/-- What is written for an attempt is its request, and goes to its address. -/
theorem hasForm (tracked : traffic.Tracked (.make channel connectTimeout limits))
    {attempt : Attempt} (among : attempt ∈ traffic.sent) {connection : Nat}
    {address : SocketAddress} {form : Http.Request}
    (written : .write attempt.number connection address form ∈
      ((Transport.make channel connectTimeout limits).run traffic.inputs).2) :
    address = attempt.call.address ∧ attempt.call.request.originForm = .ok form := by
  obtain ⟨request, isAsked, hasForm⟩ := Transport.asked_of_write _ _ _ _ written
  have once := tracked.once _ (List.mem_map_of_mem among)
  have same := Connection.eq_of_asks once isAsked (tracked.asks attempt among) rfl rfl
  obtain ⟨-, rfl, rfl⟩ := Input.send.inj same
  exact ⟨rfl, hasForm⟩

/-- If all attempts but the last have found no connection in time, then at most one request is
handed over. -/
theorem handsOver (tracked : traffic.Tracked (.make channel connectTimeout limits))
    (retried : ∀ attempt ∈ traffic.sent.dropLast, attempt.call.TimedOut) :
    (((Transport.make channel connectTimeout limits).run traffic.inputs).2.countP fun effect =>
      traffic.sent.any fun attempt => effect.handsOver attempt.number) ≤ 1 := by
  cases sent : traffic.sent.getLast? with
  | none => simp [List.getLast?_eq_none_iff.mp sent]
  | some last =>
    have among : last ∈ traffic.sent := List.mem_of_getLast? sent
    refine Nat.le_trans (List.countP_mono_left fun effect told handsOver => ?_)
      (tracked.course among).once
    obtain ⟨attempt, amongAttempts, handsOver⟩ := List.any_eq_true.mp handsOver
    obtain ⟨about, isWrite⟩ := of_decide_eq_true handsOver
    rw [← List.dropLast_append_getLast? last sent] at amongAttempts
    cases List.mem_append.mp amongAttempts with
    | inl isRetried =>
      have unconnected := tracked.unconnected (List.dropLast_subset _ isRetried)
        (retried attempt isRetried) effect told about
      rw [unconnected] at isWrite
      contradiction
    | inr isLast =>
      obtain rfl := List.mem_singleton.mp isLast
      exact handsOver

end Tracked

end Traffic

open Traffic (Tracked)

/-- The calls of a sending are the attempts that are tracked, and nothing that happened before is
forgotten. -/
theorem Outside.keeps (outside : Outside ρ) (start : Transport) (dispatcher : Dispatcher ρ)
    (inputs : List Input) :
    dispatcher.inTraffic.Keeps (outside.surroundings start) fun calls traffic =>
      Tracked start traffic ∧ traffic.sent.map (·.call) = calls ∧ inputs <+: traffic.inputs where
  next := by
    rintro calls traffic ⟨tracked, sent, before⟩
    refine ⟨tracked.happens (fun id isOwn => Traffic.notMem_foreign _ isOwn _) _, sent, ?_⟩
    exact before.trans (List.prefix_append _ _)
  transform := by
    rintro calls traffic request ⟨tracked, sent, before⟩
    exact ⟨⟨tracked.asks, tracked.once, tracked.distinct, tracked.timedOut⟩, sent, before⟩
  exchange := by
    rintro calls traffic address request ⟨tracked, rfl, before⟩
    refine ⟨tracked.exchange outside address request, List.map_append, ?_⟩
    exact before.trans (List.prefix_append _ _)

/-- A request is handed over at most once, whatever the source, the peers and everyone else do,
whatever has happened before and whatever happens later: among all effects there is at most one that
hands over the request of one of the attempts, and then it is the request of the attempt, in the
form in which it is written, and goes to the address of the attempt. An attempt that is followed by
another one has found no connection in time, and nothing was ever done for it but to look for a
connection. -/
theorem handed_over_at_most_once (channel : Channel) (connectTimeout : Duration) (limits : Limits)
    (dispatcher : Dispatcher ρ) (outside : Outside ρ) (request : Http.Request)
    (earlier later : List Input) (state : ρ) :
    let start := Transport.make channel connectTimeout limits
    let delivery := dispatcher.inTraffic.send (outside.surroundings start) request
      { inputs := earlier, outside := state }
    let sent := delivery.state.sent
    let effects :=
      (start.run (delivery.state.inputs ++ Traffic.foreign delivery.state.own later)).2
    earlier <+: delivery.state.inputs ∧ sent.map (·.call) = delivery.calls ∧
      (sent.map (·.number)).Nodup ∧
      effects.countP (fun effect => sent.any fun attempt => effect.handsOver attempt.number) ≤ 1 ∧
      (∀ attempt ∈ sent, ∀ connection address form,
        .write attempt.number connection address form ∈ effects →
          address = attempt.call.address ∧ attempt.call.request.originForm = .ok form) ∧
      ∀ attempt ∈ sent.dropLast, attempt.call.TimedOut ∧
        ∀ effect ∈ effects, effect.about? = some attempt.number → effect.progress = 0 := by
  intro start delivery sent effects
  obtain ⟨tracked, calls, before⟩ := (outside.keeps start dispatcher earlier).send request
    ⟨Tracked.of_none start earlier state, rfl, List.prefix_rfl⟩
  have trackedLater := tracked.happens
    (fun id isOwn => Traffic.notMem_foreign _ isOwn later) delivery.state.outside
  have retried : ∀ attempt ∈ sent.dropLast, attempt.call.TimedOut := by
    intro attempt among
    obtain ⟨delivers, isRecord, _⟩ := Dispatcher.send_recorded dispatcher.inTraffic
      (outside.surroundings start) request { inputs := earlier, outside := state }
    apply delivers.account.retried
    rw [← isRecord, ← calls, ← List.map_dropLast]
    exact List.mem_map_of_mem among
  refine ⟨before, calls, tracked.distinct, trackedLater.handsOver retried, ?_, ?_⟩
  · intro attempt among connection address form written
    exact trackedLater.hasForm among written
  · intro attempt among
    have timedOut := retried attempt among
    exact ⟨timedOut, trackedLater.unconnected (List.dropLast_subset _ among) timedOut⟩

/-- A host that cannot be connected to in time once, and answers from then on. -/
def lateHost : Outside Unit where
  next _ _ := (some ⟨.v4 ⟨10, 0, 0, 1⟩, 80⟩, [], ())
  during id _ _ inputs _ :=
    (if inputs.isEmpty then [.connectTimedOut id]
      else [.connected id, .opened id, .head 0 { status := 200 }, .body 0 []], ())

/-- The second attempt gets the answer, and only for the second one is anything written. -/
example :
    let start := Transport.make .plain ⟨30⟩ ⟨2, ⟨90⟩⟩
    let delivery := (Dispatcher.ofChange ⟨.http, "api.example", 80⟩ id).inTraffic.send
      (lateHost.surroundings start) { method := "POST", uri := .origin ⟨"/", none⟩ }
      { inputs := [], outside := () }
    delivery.calls.map (·.outcome.isOk) = [false, true] ∧
      delivery.state.sent.map (fun attempt =>
        (start.run delivery.state.inputs).2.countP (·.handsOver attempt.number)) = [0, 1] := by
  decide +kernel

end OneHost
