import Mathlib.Data.List.Basic
import OneHost.Proofs.Connection.Eviction
import OneHost.Proofs.Connection.Progress

/-!
# What the counts of an address count

A connection counts as made when it is open for requests, and as reused when a send takes it from
those that are kept. The send has yet to wait until it is ready. If it is not, the send goes on
looking, and counts again for what it finds: so the connections that are made and reused are those
on which requests were written, and those that were taken for nothing. A failure counts where a
connection is refused, comes too late or cannot be secured, but not where it cannot be set up or
opened for requests.
-/

namespace OneHost.Connection

/-! ## The counts of a cache -/

namespace Cache

variable {α : Type} {cache : Cache α} {isOpen : α → Bool} {now : Nat}
variable {address other : SocketAddress}

/-- How often a connection to an address was made or taken again. -/
def acquired (cache : Cache α) (address : SocketAddress) : Nat :=
  (cache.stats address).elim 0 fun stats => stats.created + stats.reused

/-- How often it is counted that no connection to an address could be made. -/
def failed (cache : Cache α) (address : SocketAddress) : Nat :=
  (cache.stats address).elim 0 (·.failed)

theorem acquired_eq (cache : Cache α) (address : SocketAddress) :
    cache.acquired address =
      ((cache.shelf? address).getD {}).created + ((cache.shelf? address).getD {}).reused := by
  rw [acquired, stats]
  cases cache.shelf? address <;> rfl

theorem failed_eq (cache : Cache α) (address : SocketAddress) :
    cache.failed address = ((cache.shelf? address).getD {}).failed := by
  rw [failed, stats]
  cases cache.shelf? address <;> rfl

/-- The counts of an address grow by so much, and those of the others stay. -/
structure Grows (cache after : Cache α) (address : SocketAddress) (acquired failed : Nat) :
    Prop where
  acquired : ∀ other, after.acquired other =
    cache.acquired other + if other = address then acquired else 0
  failed : ∀ other, after.failed other =
    cache.failed other + if other = address then failed else 0

theorem Grows.refl (cache : Cache α) (address : SocketAddress) : cache.Grows cache address 0 0 where
  acquired _ := by rw [ite_self, Nat.add_zero]
  failed _ := by rw [ite_self, Nat.add_zero]

theorem grows_setShelf {shelf : Shelf α} {acquired failed : Nat}
    (more : shelf.created + shelf.reused = cache.acquired address + acquired)
    (missed : shelf.failed = cache.failed address + failed) :
    cache.Grows (cache.setShelf address shelf) address acquired failed where
  acquired other := by
    rw [acquired_eq, shelf?_setShelf]
    split
    · rename_i own
      rw [own]
      exact more
    · rw [acquired_eq, Nat.add_zero]
  failed other := by
    rw [failed_eq, shelf?_setShelf]
    split
    · rename_i own
      rw [own]
      exact missed
    · rw [failed_eq, Nat.add_zero]

theorem grows_modifyShelf {change : Shelf α → Shelf α} {acquired failed : Nat} (cache : Cache α)
    (address : SocketAddress)
    (more : ∀ shelf, (change shelf).created + (change shelf).reused =
      shelf.created + shelf.reused + acquired)
    (missed : ∀ shelf, (change shelf).failed = shelf.failed + failed) :
    cache.Grows (cache.modifyShelf address change) address acquired failed :=
  grows_setShelf ((more _).trans (by rw [acquired_eq])) ((missed _).trans (by rw [failed_eq]))

theorem grows_recordCreated (cache : Cache α) (address : SocketAddress) :
    cache.Grows (cache.recordCreated address) address 1 0 :=
  cache.grows_modifyShelf address (fun _ => Nat.add_right_comm ..) fun _ => rfl

theorem grows_recordFailed (cache : Cache α) (address : SocketAddress) :
    cache.Grows (cache.recordFailed address) address 0 1 :=
  cache.grows_modifyShelf address (fun _ => rfl) fun _ => rfl

/-- A connection that comes back does not count. -/
theorem grows_checkin (cache : Cache α) (isOpen : α → Bool) (now : Nat) (address : SocketAddress)
    (checkout : Checkout α) :
    cache.Grows (cache.checkin isOpen now address checkout) address 0 0 := by
  unfold checkin
  split
  · apply cache.grows_modifyShelf address <;>
    · intro shelf
      split <;> rfl
  · exact .refl cache address

/-- A connection that goes out counts as one that is reused, whatever becomes of it. -/
theorem grows_checkout (cache : Cache α) (isOpen : α → Bool) (now : Nat) (address : SocketAddress) :
    cache.Grows (cache.checkout isOpen now address).2.2 address
      (cache.checkout isOpen now address).1.isSome.toNat 0 := by
  unfold checkout
  cases there : cache.shelf? address with
  | none => exact .refl cache address
  | some shelf =>
    have acquired : shelf.created + shelf.reused = cache.acquired address := by
      simp [acquired_eq, there]
    have failed : shelf.failed = cache.failed address + 0 := by simp [failed_eq, there]
    simp only
    generalize firstUsable? _ shelf.connections = outcome
    obtain ⟨discarded, found⟩ := outcome
    cases found with
    | none => exact grows_setShelf acquired failed
    | some found => exact grows_setShelf (congrArg (· + 1) acquired) failed

/-- Forgetting an address changes nothing about the others. -/
theorem stats_evict (elsewhere : other ≠ address) (cache : Cache α) :
    (cache.evict address).2.stats other = cache.stats other := by
  unfold evict
  split
  · rfl
  · simp only [stats, shelf?, lookup_filter_ne, if_neg elsewhere]

end Cache

/-! ## What becomes of a search for a connection -/

namespace Stage

/-- A connection has been taken from those that are kept, and is not ready yet. -/
def isReadying : Stage → Bool
  | readying _ => true
  | _ => false

/-- A connection is being made. -/
def isDialling : Stage → Bool
  | dialling => true
  | _ => false

/-- A connection is being opened for requests. -/
def isOpening : Stage → Bool
  | opening _ => true
  | _ => false

/-- There is no connection for the request yet. -/
def isSeeking (stage : Stage) : Bool :=
  stage.progress < 2

end Stage

/-- Whether a send to an address is at a stage of a kind. -/
def Sending.isAt (sending : Sending) (address : SocketAddress) (kind : Stage → Bool) : Bool :=
  address = sending.address && kind sending.stage

/-- Whether a request is written to a connection to an address. -/
def Effect.writesTo (address : SocketAddress) : Effect → Bool
  | write _ _ other _ => address = other
  | _ => false

namespace Transport

variable {transport after : Transport} {sending : Sending} {address : SocketAddress}
variable {input : Input} {inputs : List Input} {kind : Stage → Bool}

/-- Whether the send of a number goes to an address and is at a stage of a kind. -/
def hasAt (transport : Transport) (id : Nat) (address : SocketAddress) (kind : Stage → Bool) :
    Bool :=
  (transport.send? id).any (·.isAt address kind)

/-- How many sends have taken a connection to an address that is not ready yet. -/
def readying (transport : Transport) (address : SocketAddress) : Nat :=
  transport.sends.countP (·.isAt address Stage.isReadying)

/-- Whether a send ends with an error before it has had a connection to an address. -/
def refuses (transport : Transport) (address : SocketAddress) : Effect → Bool
  | .finished id (.error _) => transport.hasAt id address Stage.isSeeking
  | _ => false

/-- How many searches for a connection to an address a step ends with a connection: the request is
written at once. -/
def served (address : SocketAddress) (transport : Transport) (input : Input) : Nat :=
  (transport.step input).2.countP (Effect.writesTo address)

/-- How many searches for a connection to an address a step ends with an error. -/
def refused (address : SocketAddress) (transport : Transport) (input : Input) : Nat :=
  (transport.step input).2.countP (transport.refuses address)

/-- How many connections to an address were taken for nothing: they do not get ready, or the send is
given up before. -/
def lost (address : SocketAddress) (transport : Transport) : Input → Nat
  | .notReady id | .cancel id => (transport.hasAt id address Stage.isReadying).toNat
  | _ => 0

/-- How many failures to make a connection to an address pass without a count: a connection cannot
be set up, or not be opened for requests. -/
def overlooked (address : SocketAddress) (transport : Transport) : Input → Nat
  | .unusable id _ => (transport.hasAt id address Stage.isDialling).toNat
  | .openFailed id => (transport.hasAt id address Stage.isOpening).toNat
  | _ => 0

/-- What the steps of some inputs come to, each measured in the state in which it is taken. -/
def total (measure : Transport → Input → Nat) (transport : Transport) : List Input → Nat
  | [] => 0
  | input :: inputs => measure transport input + (transport.step input).1.total measure inputs

/-! ## Sends by their numbers -/

/-- No two sends have the same number. -/
def Numbered (transport : Transport) : Prop :=
  (transport.sends.map (·.id)).Nodup

theorem countP_filter_find? {property : Sending → Bool} {sends : List Sending}
    (numbered : (sends.map (·.id)).Nodup) (id : Nat) :
    (sends.filter (·.id ≠ id)).countP property + ((sends.find? (·.id = id)).any property).toNat =
      sends.countP property := by
  induction sends with
  | nil => rfl
  | cons first rest ih =>
    rw [List.map_cons, List.nodup_cons] at numbered
    obtain ⟨fresh, numbered⟩ := numbered
    by_cases own : first.id = id
    · have others : rest.filter (·.id ≠ id) = rest := by
        rw [List.filter_eq_self]
        intro other among
        have different : other.id ≠ id := fun same =>
          fresh (own.trans same.symm ▸ List.mem_map_of_mem among)
        exact decide_eq_true different
      simp only [List.filter_cons, List.find?_cons, own, ne_eq, not_true_eq_false, decide_false,
        decide_true, Bool.false_eq_true, if_false, Option.any_some, List.countP_cons]
      rw [others]
      cases property first <;> rfl
    · simp only [List.filter_cons, List.find?_cons, own, ne_eq, not_false_eq_true, decide_true,
        decide_false, if_true, List.countP_cons]
      have rest := ih numbered
      simp only [ne_eq] at rest
      omega

theorem readying_withoutSend (numbered : transport.Numbered) (id : Nat) (address : SocketAddress) :
    (transport.withoutSend id).readying address +
        (transport.hasAt id address Stage.isReadying).toNat = transport.readying address :=
  countP_filter_find? numbered id

theorem readying_enter (transport : Transport) (sending : Sending) (stage : Stage)
    (address : SocketAddress) :
    (transport.enter sending stage).readying address =
      (transport.withoutSend sending.id).readying address +
        (Sending.isAt { sending with stage } address Stage.isReadying).toNat := by
  rw [readying, enter, List.countP_cons]
  cases Sending.isAt { sending with stage } address Stage.isReadying <;> rfl

theorem readying_enter_of_not {stage : Stage} (notAfter : stage.isReadying = false)
    (transport : Transport) (sending : Sending) (address : SocketAddress) :
    (transport.enter sending stage).readying address =
      (transport.withoutSend sending.id).readying address := by
  rw [readying_enter, Sending.isAt, notAfter, Bool.and_false]
  rfl

namespace Numbered

theorem send?_eq (numbered : transport.Numbered) (among : sending ∈ transport.sends) :
    transport.send? sending.id = some sending := by
  cases found : transport.send? sending.id with
  | none => exact absurd (decide_eq_true rfl) (List.find?_eq_none.mp found sending among)
  | some other =>
    have same : other.id = sending.id := by simpa using List.find?_some found
    rw [List.inj_on_of_nodup_map numbered (List.mem_of_find?_eq_some found) among same]

theorem hasAt_eq (numbered : transport.Numbered) (among : sending ∈ transport.sends)
    (address : SocketAddress) (kind : Stage → Bool) :
    transport.hasAt sending.id address kind = sending.isAt address kind := by
  rw [hasAt, numbered.send?_eq among, Option.any_some]

theorem withoutSend (numbered : transport.Numbered) (id : Nat) :
    (transport.withoutSend id).Numbered :=
  numbered.sublist (List.filter_sublist.map _)

theorem enter {before : Transport} (numbered : before.Numbered)
    (same : transport.sends = before.sends) (sending : Sending) (stage : Stage) :
    (transport.enter sending stage).Numbered := by
  have others : (transport.withoutSend sending.id).Numbered := by
    rw [Numbered, Transport.withoutSend, same]
    exact numbered.withoutSend sending.id
  refine List.nodup_cons.mpr ⟨?_, others⟩
  simp

theorem step (numbered : transport.Numbered) (input : Input) :
    (transport.step input).1.Numbered := by
  obtain ⟨after, effects, stepped, transition⟩ := exists_transition transport input
  rw [stepped]
  cases transition with
  | missed _ | refused _ _ | unclaimed _ _ | broke _ | closed _ | evicted _ | elapsed _ =>
    exact numbered
  | sent _ _ acquires | again _ _ acquires => cases acquires <;> exact numbered.enter rfl _ _
  | wrote _ _ | proceeded _ _ | opened _ _ | headed _ _ _ => exact numbered.enter rfl _ _
  | failed _ _ | answered _ _ _ | brokeOff _ _ | cancelled _ => exact numbered.withoutSend _

end Numbered

/-! ## A step -/

/-- The counts of an address grow with what becomes of the searches for a connection to it. -/
structure Accounts (address : SocketAddress) (before after : Transport)
    (served refused lost overlooked : Nat) : Prop where
  acquired : after.cache.acquired address + before.readying address =
    before.cache.acquired address + after.readying address + served + lost
  failed : after.cache.failed address + overlooked = before.cache.failed address + refused

theorem Accounts.of_same (cache : after.cache = transport.cache)
    (readying : after.readying address = transport.readying address) :
    Accounts address transport after 0 0 0 0 := by
  constructor
  · rw [cache, readying]
    rfl
  · rw [cache]

/-- A send that goes on or ends is no longer one that has a connection to get ready. -/
theorem Accounts.of_withoutSend {id served refused lost overlooked : Nat}
    (numbered : transport.Numbered)
    (accounts : Accounts address (transport.withoutSend id) after served refused lost overlooked) :
    Accounts address transport after served refused
      (lost + (transport.hasAt id address Stage.isReadying).toNat) overlooked where
  acquired := by
    have acquired := accounts.acquired
    have readying := readying_withoutSend numbered id address
    change _ = transport.cache.acquired address + _ + _ + _ at acquired
    omega
  failed := accounts.failed

theorem Accounts.of_other {served refused overlooked : Nat} (numbered : transport.Numbered)
    (among : sending ∈ transport.sends) (notReadying : sending.stage.isReadying = false)
    (accounts : Accounts address (transport.withoutSend sending.id) after served refused 0
      overlooked) : Accounts address transport after served refused 0 overlooked := by
  have onward := accounts.of_withoutSend numbered
  rw [numbered.hasAt_eq among, Sending.isAt, notReadying, Bool.and_false] at onward
  exact onward

/-- A send that has no connection to get ready goes on or ends, and something counts for its
address. -/
theorem Accounts.of_grows {acquired failed : Nat} (numbered : transport.Numbered)
    (among : sending ∈ transport.sends) (notReadying : sending.stage.isReadying = false)
    (grows : transport.cache.Grows after.cache sending.address acquired failed)
    (others : after.readying address = (transport.withoutSend sending.id).readying address) :
    Accounts address transport after (if address = sending.address then acquired else 0)
      (if address = sending.address then failed else 0) 0 0 := by
  refine .of_other numbered among notReadying ⟨?_, grows.failed address⟩
  rw [grows.acquired address, others]
  change transport.cache.acquired address + _ + _ = transport.cache.acquired address + _ + _ + 0
  omega

theorem toNat_decide (property : Prop) [Decidable property] :
    (decide property).toNat = if property then 1 else 0 := by
  by_cases holds : property
  · rw [decide_eq_true holds, if_pos holds, Bool.toNat_true]
  · rw [decide_eq_false holds, if_neg holds, Bool.toNat_false]

theorem countP_one (property : Effect → Bool) (effect : Effect) :
    [effect].countP property = (property effect).toNat := by
  rw [List.countP_singleton]
  cases property effect <;> rfl

/-- What is logged on the way neither writes a request nor ends a send. -/
theorem countP_logs {property : Effect → Bool} (silent : ∀ event, property (.log event) = false)
    (events : List Event) (effects : List Effect) :
    (events.map Effect.log ++ effects).countP property = effects.countP property := by
  have none : (events.map Effect.log).countP property = 0 := by
    rw [List.countP_eq_zero]
    intro effect among
    obtain ⟨event, _, rfl⟩ := List.mem_map.mp among
    rw [silent]
    exact Bool.false_ne_true
  rw [List.countP_append, none, Nat.zero_add]

/-- A send that looks for a connection takes one, which counts, or begins to make one. -/
theorem accounts_acquire (transport : Transport) (sending : Sending) (address : SocketAddress) :
    Accounts address (transport.withoutSend sending.id) (transport.acquire sending).1 0 0 0 0 ∧
      (transport.acquire sending).2.countP (Effect.writesTo address) = 0 ∧
      (transport.acquire sending).2.countP (transport.refuses address) = 0 := by
  have grows := transport.cache.grows_checkout transport.isOpen transport.now sending.address
  unfold acquire
  generalize transport.cache.checkout transport.isOpen transport.now sending.address = outcome
    at grows
  obtain ⟨checkout, events, cache⟩ := outcome
  have acquired : cache.acquired address = transport.cache.acquired address +
    if address = sending.address then checkout.isSome.toNat else 0 := grows.acquired address
  have failed := grows.failed address
  rw [ite_self, Nat.add_zero] at failed
  have others : (withoutSend { transport with cache } sending.id).readying address =
    (transport.withoutSend sending.id).readying address := rfl
  cases checkout with
  | none =>
    refine ⟨⟨?_, failed⟩, countP_logs (fun _ => rfl) events _, countP_logs (fun _ => rfl) events _⟩
    rw [Option.isSome_none, Bool.toNat_false, ite_self] at acquired
    rw [readying_enter_of_not rfl, others]
    exact congrArg (· + (transport.withoutSend sending.id).readying address) acquired
  | some checkout =>
    refine ⟨⟨?_, failed⟩, countP_logs (fun _ => rfl) events _, countP_logs (fun _ => rfl) events _⟩
    rw [Option.isSome_some, Bool.toNat_true] at acquired
    have own : Sending.isAt { sending with stage := .readying checkout } address
      Stage.isReadying = decide (address = sending.address) := Bool.and_true _
    rw [readying_enter, others, own, toNat_decide]
    change cache.acquired address + _ = transport.cache.acquired address + _ + 0 + 0
    omega

theorem exists_of_hasAt {id : Nat} (there : transport.hasAt id address kind = true) :
    ∃ sending, transport.send? id = some sending ∧ kind sending.stage = true := by
  obtain ⟨sending, found, isAt⟩ := (Option.any_eq_true ..).mp there
  exact ⟨sending, found, (Bool.and_eq_true_iff.mp isAt).2⟩

theorem Acquires.ne_nil {effects : List Effect}
    (acquires : transport.Acquires sending after effects) : effects ≠ [] := by
  cases acquires <;> simp

/-- An input that asks nothing of the world outside and tells nothing has found nothing to do. -/
theorem unnoticed (silent : (transport.step input).2 = []) (misses : input.Misses transport)
    (address : SocketAddress) :
    lost address transport input = 0 ∧ overlooked address transport input = 0 := by
  have absent {id : Nat} {kind : Stage → Bool}
      (acts : ∀ sending, transport.send? id = some sending → kind sending.stage = true →
        (transport.step input).2 ≠ []) : (transport.hasAt id address kind).toNat = 0 := by
    rw [Bool.toNat_eq_zero, Bool.eq_false_iff]
    intro there
    obtain ⟨sending, found, isOfKind⟩ := exists_of_hasAt there
    exact acts sending found isOfKind silent
  cases input with
  | notReady id =>
    refine ⟨absent fun sending found readying => ?_, rfl⟩
    cases stage : sending.stage <;> simp only [stage, Stage.isReadying, Bool.false_eq_true]
      at readying
    simp only [step, advance, found, stage]
    exact (acquires_acquire transport sending).ne_nil
  | unusable id cause =>
    refine ⟨rfl, absent fun sending found dialling => ?_⟩
    cases stage : sending.stage <;> simp only [stage, Stage.isDialling, Bool.false_eq_true]
      at dialling
    simp [step, advance, found, stage, finish]
  | openFailed id =>
    refine ⟨rfl, absent fun sending found opening => ?_⟩
    cases stage : sending.stage <;> simp only [stage, Stage.isOpening, Bool.false_eq_true]
      at opening
    simp [step, advance, found, stage, finish]
  | broken _ | close _ | cancel _ | evict _ | elapse _ => exact misses.elim
  | send _ _ _ | ready _ | connected _ | connectFailed _ _ | connectTimedOut _ | presented _ _
    | handshakeFailed _ | opened _ | head _ _ | body _ _ => exact ⟨rfl, rfl⟩

theorem accounts_of_acquire {effects : List Effect} (numbered : transport.Numbered)
    (acquired : transport.acquire sending = (after, effects)) (address : SocketAddress) :
    Accounts address transport after (effects.countP (Effect.writesTo address))
      (effects.countP (transport.refuses address))
      (transport.hasAt sending.id address Stage.isReadying).toNat 0 := by
  have acquires := accounts_acquire transport sending address
  rw [acquired] at acquires
  obtain ⟨accounts, noneWritten, noneRefused⟩ := acquires
  have onward := accounts.of_withoutSend numbered
  rw [Nat.zero_add] at onward
  rw [noneWritten, noneRefused]
  exact onward

theorem accounts_enter {stage : Stage} (numbered : transport.Numbered)
    (among : sending ∈ transport.sends) (notBefore : sending.stage.isReadying = false)
    (notAfter : stage.isReadying = false) :
    Accounts address transport (transport.enter sending stage) 0 0 0 0 :=
  .of_other numbered among notBefore (.of_same rfl (readying_enter_of_not notAfter ..))

/-- The connection that a send has taken is ready: that it was taken counts for the request that is
written to it. -/
theorem accounts_writeTo {checkout : Checkout Nat} (numbered : transport.Numbered)
    (among : sending ∈ transport.sends) (readying : sending.stage = .readying checkout)
    (address : SocketAddress) :
    Accounts address transport (transport.writeTo sending checkout).1
      (decide (address = sending.address)).toNat 0 0 0 := by
  have others : Accounts address (transport.withoutSend sending.id)
      (transport.writeTo sending checkout).1 0 0 0 0 :=
    .of_same rfl (readying_enter_of_not rfl ..)
  have onward := others.of_withoutSend numbered
  rw [numbered.hasAt_eq among, Sending.isAt, readying, Stage.isReadying, Bool.and_true] at onward
  exact ⟨onward.acquired.trans (by omega), onward.failed⟩

/-- A connection is open for requests: it counts as made, and the request is written to it. -/
theorem accounts_opened (numbered : transport.Numbered) (among : sending ∈ transport.sends)
    (notReadying : sending.stage.isReadying = false) (secured : Option Secured) :
    Accounts address transport (transport.opened sending secured).1
      (decide (address = sending.address)).toNat 0 0 0 := by
  have made : Accounts address transport (transport.opened sending secured).1
      (if address = sending.address then 1 else 0) (if address = sending.address then 0 else 0) 0
      0 :=
    .of_grows numbered among notReadying (transport.cache.grows_recordCreated sending.address)
      (readying_enter_of_not rfl ..)
  rw [ite_self] at made
  rw [toNat_decide]
  exact made

theorem accounts_recordFailed (numbered : transport.Numbered) (among : sending ∈ transport.sends)
    (notReadying : sending.stage.isReadying = false) :
    Accounts address transport
      (withoutSend { transport with cache := transport.cache.recordFailed sending.address }
        sending.id) 0 (decide (address = sending.address)).toNat 0 0 := by
  have missed : Accounts address transport
      (withoutSend { transport with cache := transport.cache.recordFailed sending.address }
        sending.id) (if address = sending.address then 0 else 0)
      (if address = sending.address then 1 else 0) 0 0 :=
    .of_grows numbered among notReadying (transport.cache.grows_recordFailed sending.address) rfl
  rw [ite_self] at missed
  rw [toNat_decide]
  exact missed

/-- An end that does not count is one that is overlooked. -/
theorem accounts_uncounted (numbered : transport.Numbered) (among : sending ∈ transport.sends)
    (notReadying : sending.stage.isReadying = false) (ended : Nat) :
    Accounts address transport (transport.withoutSend sending.id) 0 ended 0 ended :=
  .of_other numbered among notReadying ⟨rfl, rfl⟩

namespace Fails

variable {events : List Event} {error : TransportError} {cache : Cache Nat}

theorem isSeeking (fails : transport.Fails sending input events error cache) :
    sending.stage.isSeeking = true ∧ sending.stage.isReadying = false := by
  cases fails with
  | connect _ stage | timedOut stage | unusable _ stage | handshake stage | distrusted stage _ _
    | unopened stage => rw [stage]; exact ⟨rfl, rfl⟩

theorem hasAt_eq (fails : transport.Fails sending input events error cache)
    (numbered : transport.Numbered) (among : sending ∈ transport.sends) (address : SocketAddress) :
    transport.hasAt sending.id address Stage.isSeeking = decide (address = sending.address) := by
  rw [numbered.hasAt_eq among, Sending.isAt, fails.isSeeking.1, Bool.and_true]

/-- Every failure but two is counted. -/
theorem accounts (fails : transport.Fails sending input events error cache)
    (numbered : transport.Numbered) (among : sending ∈ transport.sends) (address : SocketAddress) :
    Accounts address transport (withoutSend { transport with cache } sending.id) 0
      (decide (address = sending.address)).toNat (lost address transport input)
      (overlooked address transport input) := by
  have notReadying := fails.isSeeking.2
  cases fails with
  | connect _ _ | timedOut _ | handshake _ | distrusted _ _ _ =>
    exact accounts_recordFailed numbered among notReadying
  | unusable _ dialling =>
    rw [overlooked, numbered.hasAt_eq among, Sending.isAt, dialling, Stage.isDialling,
      Bool.and_true]
    exact accounts_uncounted numbered among notReadying _
  | unopened opening =>
    rw [overlooked, numbered.hasAt_eq among, Sending.isAt, opening, Stage.isOpening, Bool.and_true]
    exact accounts_uncounted numbered among notReadying _

end Fails

theorem Proceeds.accounts {stage : Stage} {effects : List Effect}
    (proceeds : transport.Proceeds sending input stage effects) (numbered : transport.Numbered)
    (among : sending ∈ transport.sends) :
    Accounts address transport (transport.enter sending stage)
      (effects.countP (Effect.writesTo address)) (effects.countP (transport.refuses address))
      (lost address transport input) (overlooked address transport input) := by
  cases proceeds with
  | plain stage _ | encrypted stage _ =>
    exact accounts_enter numbered among (by rw [stage]; rfl) rfl
  | trusted stage _ _ =>
    rw [countP_logs fun _ => rfl, countP_logs fun _ => rfl]
    exact accounts_enter numbered among (by rw [stage]; rfl) rfl

/-- A send that has had a connection ends: nothing counts but what that gives back. -/
theorem accounts_finish {result : Except TransportError Http.Response}
    (numbered : transport.Numbered) (among : sending ∈ transport.sends)
    (handedOver : sending.stage.progress = 2)
    (grows : transport.cache.Grows after.cache sending.address 0 0)
    (sends : after.sends = (transport.withoutSend sending.id).sends) :
    Accounts address transport after
      ([Effect.finished sending.id result].countP (Effect.writesTo address))
      ([Effect.finished sending.id result].countP (transport.refuses address)) 0 0 := by
  have notSeeking : transport.refuses address (.finished sending.id result) = false := by
    cases result with
    | error _ =>
      rw [refuses, numbered.hasAt_eq among, Sending.isAt, Stage.isSeeking, handedOver]
      exact Bool.and_false _
    | ok _ => rfl
  have notReadying : sending.stage.isReadying = false := by
    cases stage : sending.stage <;> first | rfl | (rw [stage] at handedOver; contradiction)
  have given : Accounts address transport after (if address = sending.address then 0 else 0)
      (if address = sending.address then 0 else 0) 0 0 :=
    .of_grows numbered among notReadying grows (by rw [readying, sends]; rfl)
  rw [ite_self] at given
  rw [countP_one, countP_one, notSeeking]
  exact given

/-- The counts of an address follow what becomes of the searches for a connection to it, with every
step that does not forget the address. -/
theorem accounts_step (numbered : transport.Numbered) (spared : input ≠ .evict address) :
    Accounts address transport (transport.step input).1 (served address transport input)
      (refused address transport input) (lost address transport input)
      (overlooked address transport input) := by
  obtain ⟨after, effects, stepped, transition⟩ := exists_transition transport input
  simp only [served, refused, stepped]
  cases transition with
  | missed misses =>
    obtain ⟨noneLost, noneOverlooked⟩ := unnoticed (congrArg Prod.snd stepped) misses address
    rw [noneLost, noneOverlooked]
    exact .of_same rfl rfl
  | @refused id _ _ _ free _ =>
    have noSend : transport.hasAt id address Stage.isSeeking = false := by simp [hasAt, free]
    rw [countP_one, countP_one, refuses, noSend]
    exact .of_same rfl rfl
  | @sent id other request form _ _ free hasForm acquires =>
    simp only [step, free, hasForm] at stepped
    have onward := accounts_of_acquire numbered stepped address
    rw [hasAt, free] at onward
    exact onward
  | again among readying acquires =>
    simp only [step, advance, numbered.send?_eq among, readying] at stepped
    exact accounts_of_acquire numbered stepped address
  | @wrote sending checkout among readying =>
    rw [writeTo, countP_one, countP_one]
    exact accounts_writeTo numbered among readying address
  | proceeded among proceeds => exact proceeds.accounts numbered among
  | @failed sending _ _ _ _ among fails =>
    rw [countP_logs fun _ => rfl, countP_logs fun _ => rfl, countP_one, countP_one, refuses,
      fails.hasAt_eq numbered among]
    exact fails.accounts numbered among address
  | @opened sending secured among opening =>
    have written : (transport.opened sending secured).2.countP (Effect.writesTo address) =
        (decide (address = sending.address)).toNat :=
      (List.countP_cons_of_neg Bool.false_ne_true).trans (countP_one ..)
    have noneEnds :
        (transport.opened sending secured).2.countP (transport.refuses address) = 0 :=
      (List.countP_cons_of_neg Bool.false_ne_true).trans (countP_one ..)
    rw [written, noneEnds]
    exact accounts_opened numbered among (by rw [opening]; rfl) secured
  | headed response among waiting =>
    exact accounts_enter numbered among (by rw [waiting]; rfl) rfl
  | answered body among receiving =>
    exact accounts_finish numbered among (by rw [receiving]; rfl) (Cache.grows_checkin ..) rfl
  | unclaimed body unheld => exact .of_same rfl rfl
  | @brokeOff sending _ among busy =>
    have handedOver : sending.stage.progress = 2 := by
      obtain waiting | ⟨_, receiving⟩ := busy
      · rw [waiting, Stage.progress]
      · rw [receiving, Stage.progress]
    exact accounts_finish numbered among handedOver (.refl ..) rfl
  | broke noneWaits => exact .of_same rfl rfl
  | closed line => exact .of_same rfl rfl
  | cancelled id =>
    have ended : Accounts address (transport.withoutSend id) (transport.withoutSend id) 0 0 0 0 :=
      .of_same rfl rfl
    have onward := ended.of_withoutSend numbered
    rw [Nat.zero_add] at onward
    exact onward
  | evicted other =>
    have elsewhere : address ≠ other := fun own => spared (own ▸ rfl)
    have stays := Cache.stats_evict elsewhere transport.cache
    rw [countP_logs fun _ => rfl, countP_logs fun _ => rfl]
    constructor
    · simp only [Cache.acquired, stays]
      rfl
    · simp only [Cache.failed, stays]
      rfl
  | elapsed nanoseconds => exact .of_same rfl rfl

/-! ## A run -/

theorem Accounts.trans {between : Transport} {served refused lost overlooked : Nat}
    {moreServed moreRefused moreLost moreOverlooked : Nat}
    (first : Accounts address transport between served refused lost overlooked)
    (second : Accounts address between after moreServed moreRefused moreLost moreOverlooked) :
    Accounts address transport after (served + moreServed) (refused + moreRefused)
      (lost + moreLost) (overlooked + moreOverlooked) where
  acquired := by
    have firstAcquired := first.acquired
    have secondAcquired := second.acquired
    omega
  failed := by
    have firstFailed := first.failed
    have secondFailed := second.failed
    omega

/-- The counts of an address follow what becomes of the searches for a connection to it, as long as
the address is not forgotten. -/
theorem accounts_run (numbered : transport.Numbered) (spared : .evict address ∉ inputs) :
    Accounts address transport (transport.run inputs).1
      (transport.total (served address) inputs) (transport.total (refused address) inputs)
      (transport.total (lost address) inputs) (transport.total (overlooked address) inputs) := by
  induction inputs generalizing transport with
  | nil => exact .of_same rfl rfl
  | cons input inputs ih =>
    rw [List.mem_cons, not_or] at spared
    obtain ⟨sparedFirst, sparedLater⟩ := spared
    have first := accounts_step numbered (Ne.symm sparedFirst)
    exact first.trans (ih (numbered.step input) sparedLater)

/-- The searches that end with a connection are those whose requests are written. -/
theorem total_served (transport : Transport) (inputs : List Input) :
    transport.total (served address) inputs =
      (transport.run inputs).2.countP (Effect.writesTo address) := by
  induction inputs generalizing transport with
  | nil => rfl
  | cons input inputs ih =>
    rw [total, ih]
    exact List.countP_append.symm

end Transport

/-! ## What is counted -/

/-- Unless an address is forgotten, its connections that are made or taken again are as many as the
requests that are written to it, together with the connections that were taken and have not been
used for one; and its failures are as many as the searches that end with an error, but for those
whose connection cannot be set up or opened for requests. -/
theorem counts_of_searches (channel : Channel) (connectTimeout : Duration) (limits : Limits)
    {address : SocketAddress} {inputs : List Input} (spared : .evict address ∉ inputs) :
    let start := Transport.make channel connectTimeout limits
    let after := (start.run inputs).1
    let written := (start.run inputs).2.countP (Effect.writesTo address)
    let refused := start.total (Transport.refused address) inputs
    let lost := start.total (Transport.lost address) inputs
    let overlooked := start.total (Transport.overlooked address) inputs
    after.cache.acquired address = written + lost + after.readying address ∧
      after.cache.failed address + overlooked = refused ∧
      (after.cache.acquired address = written ↔ lost = 0 ∧ after.readying address = 0) ∧
      (after.cache.failed address = refused ↔ overlooked = 0) := by
  intro start after written refused lost overlooked
  have numbered : start.Numbered := List.nodup_nil
  have accounts := Transport.accounts_run numbered spared
  have acquired : after.cache.acquired address + 0 =
      0 + after.readying address + start.total (Transport.served address) inputs + lost :=
    accounts.acquired
  have failed : after.cache.failed address + overlooked = 0 + refused := accounts.failed
  rw [Transport.total_served] at acquired
  refine ⟨?_, ?_, ?_, ?_⟩ <;> omega

/-- A send takes the connection of an earlier one, which closes before it is ready, and makes one of
its own. -/
def takenForNothing : List Input :=
  inFlight ++ [.head 0 { status := 200 }, .body 0 [],
    .send 1 oneAddress { method := "GET", uri := .origin ⟨"/", none⟩ }, .close 0, .notReady 1,
    .connected 1, .opened 1]

/-- The second send counts twice, so that the counts of the two connections on which requests were
written come to three. -/
theorem counts_of_searches_takenForNothing :
    .evict oneAddress ∉ takenForNothing ∧
      ((Transport.make .plain ⟨30⟩ ⟨32, ⟨90⟩⟩).run takenForNothing).1.cache.acquired
        oneAddress = 3 ∧
      ((Transport.make .plain ⟨30⟩ ⟨32, ⟨90⟩⟩).run takenForNothing).1.cache.failed
        oneAddress = 0 := by
  have spared : .evict oneAddress ∉ takenForNothing := by simp [takenForNothing, inFlight]
  obtain ⟨acquired, _, _, failed⟩ := counts_of_searches .plain ⟨30⟩ ⟨32, ⟨90⟩⟩ spared
  exact ⟨spared, acquired, failed.mpr rfl⟩

/-- Two connections are given to sends, but three count as made or taken again; and a connection
that cannot be opened for requests ends a send with an error, but does not count as a failure. -/
theorem searches_counted_twice_or_never :
    ((Transport.make .plain ⟨30⟩ ⟨32, ⟨90⟩⟩).run takenForNothing).2.countP
        (Effect.writesTo oneAddress) = 2 ∧
      ((Transport.make .plain ⟨30⟩ ⟨32, ⟨90⟩⟩).run takenForNothing).1.cache.stats oneAddress =
        some { created := 2, reused := 1, idle := 0, failed := 0 } ∧
      (Transport.make .plain ⟨30⟩ ⟨32, ⟨90⟩⟩).total (Transport.refused oneAddress)
        [.send 0 oneAddress { method := "GET", uri := .origin ⟨"/", none⟩ }, .connected 0,
          .openFailed 0] = 1 ∧
      ((Transport.make .plain ⟨30⟩ ⟨32, ⟨90⟩⟩).run
        [.send 0 oneAddress { method := "GET", uri := .origin ⟨"/", none⟩ }, .connected 0,
          .openFailed 0]).1.cache.failed oneAddress = 0 :=
  ⟨rfl, rfl, rfl, rfl⟩

end OneHost.Connection
