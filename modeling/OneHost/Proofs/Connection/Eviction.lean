import OneHost.Proofs.Connection.Order
import OneHost.Proofs.Connection.Whereabouts

/-!
# What an eviction reaches

An eviction forgets the connections that are kept for an address, and those are gone for good. It
does not reach the connections in hand: whoever holds one may still give it back for the address,
and then it is kept, and goes out, as if there had been no eviction.
-/

namespace OneHost.Connection

/-! ## At a desk -/

namespace Desk

variable {α : Type} [DecidableEq α] {limits : Limits} {past later : List (Entry α)}
variable {desk after : Desk α} {address : SocketAddress} {connection : α}

/-- What an eviction does to the connections of an address. Those that are kept are gone for good;
any other that was made before is kept for the address, or taken for it, only if it has been given
back for it since. -/
structure Forgets (limits : Limits) (past : List (Entry α)) (desk : Desk α)
    (address : SocketAddress) : Prop where
  emptied : (desk.step (.evict address)).2.2.cache.kept address = []
  gone : ∀ connection ∈ desk.cache.idleAt address,
    GoneForGood limits ((.evict address, .done) :: past) connection
  keptAgain : ∀ {later after connection},
    Reached limits (later ++ (.evict address, .done) :: past) after →
    MadeIn past connection → connection ∈ after.cache.idleAt address →
    desk.Present connection ∧ connection ∉ desk.cache.idleAt address ∧
      (.giveBack connection address, .done) ∈ later
  takenAgain : ∀ {later after checkout},
    Reached limits
      ((.take address, .inHand checkout) :: later ++ (.evict address, .done) :: past) after →
    MadeIn past checkout.connection →
    desk.Present checkout.connection ∧ checkout.connection ∉ desk.cache.idleAt address ∧
      (.giveBack checkout.connection address, .done) ∈ later

theorem Reached.evict (reached : Reached limits past desk) (address : SocketAddress) :
    Reached limits ((.evict address, .done) :: past)
      { desk with cache := (desk.cache.evict address).2 } :=
  reached.step trivial rfl

/-- Whatever is kept for an address after its eviction has been given back for it since. -/
theorem Reached.returned (reached : Reached limits past desk)
    (reachedAfter : Reached limits (later ++ (.evict address, .done) :: past) after)
    (isKept : connection ∈ after.cache.idleAt address) :
    (.giveBack connection address, .done) ∈ later := by
  induction later generalizing after with
  | nil =>
    obtain rfl := (reached.evict address).unique reachedAfter
    rw [Cache.idleAt_eq, Cache.kept_evict, if_pos rfl] at isKept
    contradiction
  | cons entry later ih =>
    cases reachedAfter with
    | step reachedBefore _ stepped =>
      rcases (Happens.of_step stepped).idle_origin isKept with before | ⟨rfl, rfl, _⟩
      · exact List.mem_cons_of_mem _ (ih reachedBefore before)
      · exact List.mem_cons_self

theorem Reached.gone_of_evicted (reached : Reached limits past desk)
    (wasKept : connection ∈ desk.cache.idleAt address) :
    GoneForGood limits ((.evict address, .done) :: past) connection := by
  have apart := (Orderly.of_reached reached).apart
  apply reached.gone_of_kept (reached.evict address) wasKept (apart.unheld wasKept)
  obtain ⟨idle, isKept, rfl⟩ := List.mem_map.mp wasKept
  exact apart.notMem_idleAt (List.append_nil _).symm (fun _ => Cache.kept_evict _) isKept

theorem Reached.keptAgain (reached : Reached limits past desk)
    (reachedAfter : Reached limits (later ++ (.evict address, .done) :: past) after)
    (made : MadeIn past connection) (isKept : connection ∈ after.cache.idleAt address) :
    desk.Present connection ∧ connection ∉ desk.cache.idleAt address ∧
      (.giveBack connection address, .done) ∈ later := by
  have present : after.Present connection := .inr ⟨address, isKept⟩
  refine ⟨?_, fun wasKept => ?_, reached.returned reachedAfter isKept⟩
  · by_contra absent
    have madeBefore := made.mono (List.subset_cons_self (.evict address, .done) past)
    have gone := (reached.evict address).goneForGood madeBefore (mt Present.of_evict absent)
    exact gone later after reachedAfter present
  · exact reached.gone_of_evicted wasKept later after reachedAfter present

theorem Reached.forgets (reached : Reached limits past desk) (address : SocketAddress) :
    Forgets limits past desk address where
  emptied := (Cache.kept_evict _).trans (if_pos rfl)
  gone _ wasKept := reached.gone_of_evicted wasKept
  keptAgain := reached.keptAgain
  takenAgain reachedAfter made := by
    cases reachedAfter with
    | step reachedBefore _ stepped =>
      exact reached.keptAgain reachedBefore made (Happens.of_step stepped).wasKept

end Desk

/-! ## In a transport -/

namespace Transport

variable {start transport after : Transport} {input : Input} {inputs : List Input}
variable {effects : List Effect} {connection : Nat} {address : SocketAddress}

/-- A send has had its whole answer through a connection. If the connection was there at the start,
the send held it then. -/
def Returned (start : Transport) (connection : Nat) (inputs : List Input) : Prop :=
  ∃ during body rest id response, inputs = during ++ .body connection body :: rest ∧
    .finished id (.ok response) ∈ ((start.run during).1.step (.body connection body)).2 ∧
    (connection < start.lines.length →
      ∃ sending ∈ start.sends, sending.id = id ∧ sending.connection? = some connection)

theorem Returned.concat (returned : start.Returned connection inputs) (input : Input) :
    start.Returned connection (inputs ++ [input]) := by
  obtain ⟨during, body, rest, id, response, rfl, finished, heldStart⟩ := returned
  exact ⟨during, body, rest ++ [input], id, response, by simp, finished, heldStart⟩

/-- A connection has not come back: nobody keeps it, it has not been handed out, and if it was there
at the start, whoever holds it held it then. -/
structure Withheld (start : Transport) (connection : Nat) (effects : List Effect)
    (transport : Transport) : Prop where
  unkept : ∀ address, connection ∉ transport.cache.idleAt address
  held : connection < start.lines.length → ∀ sending ∈ transport.sends,
    sending.connection? = some connection → start.HeldBefore connection sending
  unserved : ∀ id, .awaitReady id connection ∉ effects

theorem goesTo?_of_lt_length (bound : connection < transport.lines.length) :
    transport.goesTo? connection = some transport.lines[connection].address := by
  rw [goesTo?, List.getElem?_eq_getElem bound]
  rfl

theorem goesTo?_run (bound : connection < start.lines.length) (inputs : List Input) :
    (start.run inputs).1.goesTo? connection = start.goesTo? connection := by
  rw [goesTo?_of_lt_length bound]
  exact run_induction (motive := fun _ _ transport =>
      transport.goesTo? connection = some start.lines[connection].address)
    (goesTo?_of_lt_length bound)
    (fun goesTo stepped => (Transition.of_step stepped).goesTo?_eq_some goesTo) inputs

theorem lt_length_run (bound : connection < start.lines.length) (inputs : List Input) :
    connection < (start.run inputs).1.lines.length := by
  have goesTo := (goesTo?_run bound inputs).trans (goesTo?_of_lt_length bound)
  obtain ⟨line, found, _⟩ := Option.map_eq_some_iff.mp goesTo
  exact (List.getElem?_eq_some_iff.mp found).1

theorem Withheld.step {more : List Effect} (withheld : start.Withheld connection effects transport)
    (transition : Transition transport input after more)
    (further : connection < start.lines.length → connection < transport.lines.length)
    (incomplete : ∀ sending, ¬transport.Completes connection sending input more) :
    start.Withheld connection (effects ++ more) after where
  unkept address isKept := by
    rcases transition.kept_origin isKept with before | ⟨sending, _, completes⟩
    · exact withheld.unkept address before
    · exact incomplete sending completes
  held bound sending among holds := by
    cases transition.held_origin (further bound) among holds with
    | inl heldBefore =>
      obtain ⟨other, amongBefore, holdsBefore, id, place⟩ := heldBefore
      obtain ⟨earlier, amongStart, holdsStart, sameId, samePlace⟩ :=
        withheld.held bound other amongBefore holdsBefore
      exact ⟨earlier, amongStart, holdsStart, sameId.trans id, samePlace.trans place⟩
    | inr wasKept =>
      obtain ⟨address, wasKept⟩ := wasKept
      exact absurd wasKept (withheld.unkept address)
  unserved id handedOut := by
    cases List.mem_append.mp handedOut with
    | inl before => exact withheld.unserved id before
    | inr now =>
      obtain ⟨address, wasKept⟩ := transition.handed_out now
      exact withheld.unkept address wasKept

/-- A connection that nobody keeps comes back only with a whole answer. -/
theorem returned_or_withheld (start : Transport)
    (unkept : ∀ address, connection ∉ start.cache.idleAt address) (inputs : List Input) :
    start.Returned connection inputs ∨
      start.Withheld connection (start.run inputs).2 (start.run inputs).1 := by
  have atStart : start.Withheld connection [] start :=
    ⟨unkept, fun _ sending among holds => ⟨sending, among, holds, rfl, rfl⟩,
      fun _ => List.not_mem_nil⟩
  apply run_induction (motive := fun inputs effects transport =>
    start.Returned connection inputs ∨ start.Withheld connection effects transport)
  case nil => exact .inr atStart
  case snoc =>
    intro inputs input more after ih stepped
    cases ih with
    | inl returned => exact .inl (returned.concat input)
    | inr withheld =>
      by_cases completes : ∃ sending, (start.run inputs).1.Completes connection sending input more
      · obtain ⟨sending, among, holds, ⟨body, rfl⟩, response, finished⟩ := completes
        refine .inl ⟨inputs, body, [], sending.id, response, rfl, ?_, fun bound => ?_⟩
        · rw [stepped]
          exact finished
        · obtain ⟨earlier, amongStart, heldStart, sameId, _⟩ :=
            withheld.held bound sending among holds
          exact ⟨earlier, amongStart, sameId, heldStart⟩
      · exact .inr (withheld.step (.of_step stepped) (fun bound => lt_length_run bound inputs)
          fun sending now => completes ⟨sending, now⟩)

/-- The transport after an eviction. -/
def evicted (transport : Transport) (address : SocketAddress) : Transport :=
  (transport.step (.evict address)).1

/-- What an eviction does to the connections of an address. Those that are kept are gone for good;
any other is kept for the address, or handed out for it, only if a send has had its whole answer
through it since, which held it at the eviction if it was there. -/
structure Forgets (transport : Transport) (address : SocketAddress) : Prop where
  emptied : (transport.evicted address).cache.kept address = []
  gone : ∀ connection ∈ transport.cache.idleAt address, ∀ later,
    (∀ other, connection ∉
      ((transport.evicted address).run later).1.cache.idleAt other) ∧
    connection ∉ ((transport.evicted address).run later).1.inHand ∧
    ∀ id, .awaitReady id connection ∉ ((transport.evicted address).run later).2
  keptAgain : ∀ connection later,
    connection ∈ ((transport.evicted address).run later).1.cache.idleAt address →
      (transport.evicted address).Returned connection later
  takenAgain : ∀ connection later id,
    ((transport.evicted address).run later).1.goesTo? connection = some address →
    .awaitReady id connection ∈ ((transport.evicted address).run later).2 →
      (transport.evicted address).Returned connection later

theorem kept_evicted (transport : Transport) (address other : SocketAddress) :
    (transport.evicted address).cache.kept other =
      if other = address then [] else transport.cache.kept other :=
  Cache.kept_evict _

namespace WellFormed

theorem evicted (wellFormed : transport.WellFormed) (address : SocketAddress) :
    (transport.evicted address).WellFormed :=
  wellFormed.step (transition_step transport (.evict address))

theorem goesTo_of_kept (wellFormed : transport.WellFormed)
    (isKept : connection ∈ transport.cache.idleAt address) :
    transport.goesTo? connection = some address := by
  obtain ⟨idle, isIdle, rfl⟩ := List.mem_map.mp isKept
  exact (wellFormed.kept address idle isIdle).goesTo

/-- A connection that goes to an address is kept for no address right after the eviction. -/
theorem unkept_of_goesTo {later : List Input} (wellFormed : transport.WellFormed)
    (goesTo : ((transport.evicted address).run later).1.goesTo? connection = some address)
    (other : SocketAddress) : connection ∉ (transport.evicted address).cache.idleAt other := by
  intro isKept
  have bound := (wellFormed.evicted address).lt_length_of_kept isKept
  have went := (wellFormed.evicted address).goesTo_of_kept isKept
  rw [goesTo?_run bound, went] at goesTo
  obtain rfl := Option.some.inj goesTo
  rw [Cache.idleAt_eq, kept_evicted, if_pos rfl] at isKept
  contradiction

theorem forgets (wellFormed : transport.WellFormed) (address : SocketAddress) :
    transport.Forgets address where
  emptied := (transport.kept_evicted address address).trans (if_pos rfl)
  gone connection wasKept later := by
    have bound : connection < (transport.evicted address).lines.length :=
      wellFormed.lt_length_of_kept wasKept
    have unheld {sending : Sending} (among : sending ∈ transport.sends) :
        sending.connection? ≠ some connection :=
      fun holds => wellFormed.notKept among holds address wasKept
    have goesTo : ((transport.evicted address).run later).1.goesTo? connection = some address :=
      (goesTo?_run bound later).trans (wellFormed.goesTo_of_kept wasKept)
    cases returned_or_withheld _ (wellFormed.unkept_of_goesTo goesTo) later with
    | inl returned =>
      obtain ⟨_, _, _, _, _, _, _, heldStart⟩ := returned
      obtain ⟨sending, among, _, holds⟩ := heldStart bound
      exact absurd holds (unheld among)
    | inr withheld =>
      refine ⟨withheld.unkept, fun isHeld => ?_, withheld.unserved⟩
      obtain ⟨sending, among, holds⟩ := mem_inHand.mp isHeld
      obtain ⟨earlier, amongStart, heldStart, _⟩ := withheld.held bound sending among holds
      exact unheld amongStart heldStart
  keptAgain connection later isKept := by
    have goesTo := ((wellFormed.evicted address).run later).goesTo_of_kept isKept
    cases returned_or_withheld _ (wellFormed.unkept_of_goesTo goesTo) later with
    | inl returned => exact returned
    | inr withheld => exact absurd isKept (withheld.unkept address)
  takenAgain connection later id goesTo handedOut := by
    cases returned_or_withheld _ (wellFormed.unkept_of_goesTo goesTo) later with
    | inl returned => exact returned
    | inr withheld => exact absurd handedOut (withheld.unserved id)

end WellFormed

end Transport

/-! ## Who is spared -/

/-- An eviction forgets what is kept for an address, and nothing else: a connection that was made
before it comes back for the address only if it was in hand, or kept elsewhere, and has been given
back for the address since, by a send that had its whole answer. -/
theorem eviction_spares_what_is_in_hand {α : Type} [DecidableEq α] {limits : Limits}
    {past : List (Desk.Entry α)} {desk : Desk α} (reached : Desk.Reached limits past desk)
    (channel : Channel) (connectTimeout : Duration) (inputs : List Input)
    (address : SocketAddress) :
    Desk.Forgets limits past desk address ∧
      ((Transport.make channel connectTimeout limits).run inputs).1.Forgets address :=
  ⟨reached.forgets address, ((Transport.WellFormed.of_make ..).run inputs).forgets address⟩

/-- The address of the runs below. -/
def oneAddress : SocketAddress := ⟨.v4 ⟨10, 0, 0, 1⟩, 80⟩

/-- One of two connections has come back, the other one is in hand. -/
def oneOfTwo : List (Desk.Entry Nat) :=
  [(.giveBack 1 oneAddress, .done), (.make 2, .inHand ⟨2, 0, 0⟩), (.make 1, .inHand ⟨1, 0, 0⟩)]

/-- A send has written its request, and waits for the answer. -/
def inFlight : List Input :=
  [.send 0 oneAddress { method := "GET", uri := .origin ⟨"/", none⟩ }, .connected 0, .opened 0]

/-- The eviction forgets the one connection for good. The other one comes back afterwards and is
taken, as is the connection of the send once its answer has come. -/
theorem eviction_spares_what_is_in_hand_oneOfTwo :
    ∃ desk after : Desk Nat, Desk.Reached ⟨2, ⟨90⟩⟩ oneOfTwo desk ∧
      desk.cache.idleAt oneAddress = [1] ∧
      Desk.GoneForGood ⟨2, ⟨90⟩⟩ ((.evict oneAddress, .done) :: oneOfTwo) 1 ∧
      Desk.Reached ⟨2, ⟨90⟩⟩
        ((.take oneAddress, .inHand ⟨2, 1, 0⟩) :: [(.giveBack 2 oneAddress, .done)] ++
          (.evict oneAddress, .done) :: oneOfTwo) after ∧
      desk.Present 2 ∧ 2 ∉ desk.cache.idleAt oneAddress ∧
      (((Transport.make .plain ⟨30⟩ ⟨2, ⟨90⟩⟩).run inFlight).1.evicted oneAddress).Returned 0
        [.head 0 { status := 200 }, .body 0 []] := by
  have firstNew : Desk.IsNew ([] : List (Desk.Entry Nat)) (.make 1) := by
    simp [Desk.IsNew, Desk.MadeIn]
  have secondNew : Desk.IsNew [((.make 1, .inHand ⟨1, 0, 0⟩) : Desk.Entry Nat)] (.make 2) := by
    simp [Desk.IsNew, Desk.MadeIn]
  have made : Desk.MadeIn oneOfTwo 2 := ⟨_, .tail _ (.head _)⟩
  have reached : Desk.Reached ⟨2, ⟨90⟩⟩ oneOfTwo _ :=
    .step (.step (.step .start firstNew rfl) secondNew rfl) trivial rfl
  have reachedAfter : Desk.Reached ⟨2, ⟨90⟩⟩
      ((.take oneAddress, .inHand ⟨2, 1, 0⟩) :: [(.giveBack 2 oneAddress, .done)] ++
        (.evict oneAddress, .done) :: oneOfTwo) _ :=
    .step (.step (reached.evict oneAddress) trivial rfl) trivial rfl
  obtain ⟨atDesk, inTransport⟩ :=
    eviction_spares_what_is_in_hand reached .plain ⟨30⟩ inFlight oneAddress
  obtain ⟨present, notKept, _⟩ := atDesk.takenAgain reachedAfter made
  exact ⟨_, _, reached, rfl, atDesk.gone 1 (.head _), reachedAfter, present, notKept,
    inTransport.keptAgain 0 _ (.head _)⟩

/-- A connection that was made before the eviction of its address, and is in use at the eviction, is
kept for the address afterwards, and handed out. -/
theorem kept_again_after_eviction :
    (∃ desk : Desk Nat, Desk.Reached ⟨32, ⟨90⟩⟩
        [(.giveBack 1 oneAddress, .done), (.evict oneAddress, .done),
          (.make 1, .inHand ⟨1, 0, 0⟩)] desk ∧
      desk.cache.idleAt oneAddress = [1] ∧
      (desk.step (.take oneAddress)).1 = .inHand ⟨1, 1, 0⟩) ∧
    ((Transport.make .plain ⟨30⟩ ⟨32, ⟨90⟩⟩).run
      (inFlight ++ [.evict oneAddress, .head 0 { status := 200 }, .body 0 []])).1.cache.idleAt
        oneAddress = [0] ∧
    .awaitReady 1 0 ∈ ((Transport.make .plain ⟨30⟩ ⟨32, ⟨90⟩⟩).run
      (inFlight ++ [.evict oneAddress, .head 0 { status := 200 }, .body 0 [],
        .send 1 oneAddress { method := "GET", uri := .origin ⟨"/", none⟩ }])).2 := by
  have isNew : Desk.IsNew ([] : List (Desk.Entry Nat)) (.make 1) := by
    simp [Desk.IsNew, Desk.MadeIn]
  refine ⟨⟨_, .step (.step (.step .start isNew rfl) trivial rfl) trivial rfl, rfl, rfl⟩, rfl, ?_⟩
  exact List.mem_of_getElem? (i := 8) rfl

end OneHost.Connection
