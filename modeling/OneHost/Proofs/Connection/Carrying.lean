import Mathlib.Data.List.Pairwise
import OneHost.Proofs.Connection.Transitions

/-!
# What connections carry

A connection that is kept has carried a number of whole exchanges to the address for which it is
kept, and nothing else. So has one that a send has just taken; as soon as the send has written its
request, the connection carries that request on top. A send that ends before its answer is whole
takes its connection with it, so nothing is ever kept with an answer still to come.
-/

namespace OneHost.Connection

/-- A connection to an address has carried a number of whole exchanges, and some requests on top
wait for their answers. -/
structure Line.Carries (line : Line) (address : SocketAddress) (exchanges : Nat)
    (pending : List Http.Request) : Prop where
  toAddress : line.address = address
  answered : line.answered = exchanges
  written : ∃ earlier, earlier.length = exchanges ∧ line.written = earlier ++ pending

namespace Line.Carries

variable {line : Line} {address : SocketAddress} {exchanges : Nat} {pending : List Http.Request}
variable {request : Http.Request}

theorem outstanding (carries : line.Carries address exchanges pending) :
    line.outstanding = pending := by
  obtain ⟨_, rfl, earlier, sameLength, written⟩ := carries
  rw [Line.outstanding, written, ← sameLength, List.drop_left]

theorem length_written (carries : line.Carries address exchanges pending) :
    line.written.length = exchanges + pending.length := by
  obtain ⟨_, _, earlier, sameLength, written⟩ := carries
  rw [written, List.length_append, sameLength]

theorem write (carries : line.Carries address exchanges []) (request : Http.Request) :
    (line.write request).Carries address exchanges [request] := by
  obtain ⟨toAddress, answered, earlier, sameLength, written⟩ := carries
  refine ⟨toAddress, answered, earlier, sameLength, ?_⟩
  rw [Line.write, written, List.append_nil]

theorem noteAnswer (carries : line.Carries address exchanges [request]) :
    line.noteAnswer.Carries address (exchanges + 1) [] := by
  obtain ⟨toAddress, answered, earlier, sameLength, written⟩ := carries
  have due : line.answered < line.written.length := by
    rw [written, answered, ← sameLength]
    simp
  rw [Line.noteAnswer, if_pos due]
  refine ⟨toAddress, congrArg (· + 1) answered, line.written, ?_, (List.append_nil _).symm⟩
  rw [written, List.length_append, sameLength]
  rfl

/-- No answer is noted where none is to come. -/
theorem noteAnswer_eq_self (carries : line.Carries address exchanges []) :
    line.noteAnswer = line := by
  have complete := carries.length_written
  rw [Line.noteAnswer, if_neg]
  rw [carries.answered, complete]
  exact Nat.lt_irrefl _

theorem close (carries : line.Carries address exchanges pending) :
    line.close.Carries address exchanges pending :=
  ⟨carries.toAddress, carries.answered, carries.written⟩

end Line.Carries

/-- What the connection of a send carries on top of its whole exchanges. -/
def Sending.pending (sending : Sending) : List Http.Request :=
  match sending.stage with
  | .waiting _ | .receiving _ _ => [sending.request]
  | _ => []

namespace Transport

variable {transport : Transport} {sending : Sending} {connection : Nat}
variable {address : SocketAddress} {exchanges : Nat} {pending : List Http.Request}

/-- A connection of a transport carries something. -/
def Carries (transport : Transport) (connection : Nat) (address : SocketAddress)
    (exchanges : Nat) (pending : List Http.Request) : Prop :=
  ∃ line, transport.lines[connection]? = some line ∧ line.Carries address exchanges pending

/-- A connection is neither kept nor in the hand of a send. -/
def Aside (transport : Transport) (connection : Nat) : Prop :=
  connection ∉ transport.inHand ∧ ∀ address, connection ∉ transport.cache.idleAt address

theorem Carries.lt_length (carries : transport.Carries connection address exchanges pending) :
    connection < transport.lines.length := by
  obtain ⟨line, found, _⟩ := carries
  exact (List.getElem?_eq_some_iff.mp found).1

/-! ## Changing one connection -/

theorem lines_modifyLine (transport : Transport) (line other : Nat) (change : Line → Line) :
    (transport.modifyLine line change).lines[other]? =
      transport.lines[other]?.map (if line = other then change else id) := by
  rw [modifyLine, List.getElem?_modify]
  split <;> rfl

/-- What a change does not touch can be read off a connection as before. -/
theorem map_modifyLine {β : Type} {read : Line → β} {change : Line → Line} {line : Nat}
    (same : line = connection → ∀ there : Line, read (change there) = read there) :
    (transport.modifyLine line change).lines[connection]?.map read =
      transport.lines[connection]?.map read := by
  rw [lines_modifyLine]
  split
  · rename_i own
    rw [Option.map_map]
    apply congrArg (Option.map · _)
    funext there
    exact same own there
  · rw [Option.map_id, id]

/-- A connection on which nothing has happened reads like none. -/
theorem getD_newLine {β : Type} {read : Line → β} {base : β} {line : Line}
    (blank : read line = base) (transport : Transport) (connection : Nat) :
    ((transport.lines ++ [line])[connection]?.map read).getD base =
      (transport.lines[connection]?.map read).getD base := by
  rw [List.getElem?_append]
  split
  · rfl
  · rename_i beyond
    rw [List.getElem?_eq_none (Nat.le_of_not_lt beyond), List.getElem?_singleton]
    split
    · exact blank
    · rfl

theorem Carries.modifyLine (carries : transport.Carries connection address exchanges pending)
    {line : Nat} {change : Line → Line} (different : line ≠ connection) :
    (transport.modifyLine line change).Carries connection address exchanges pending := by
  obtain ⟨there, found, carries⟩ := carries
  refine ⟨there, ?_, carries⟩
  rw [lines_modifyLine, if_neg different, found]
  rfl

theorem Carries.change {exchangesAfter : Nat} {pendingAfter : List Http.Request}
    (carries : transport.Carries connection address exchanges pending) {change : Line → Line}
    (changes : ∀ {line : Line}, line.Carries address exchanges pending →
      (change line).Carries address exchangesAfter pendingAfter) :
    (transport.modifyLine connection change).Carries connection address exchangesAfter
      pendingAfter := by
  obtain ⟨there, found, carries⟩ := carries
  refine ⟨change there, ?_, changes carries⟩
  rw [lines_modifyLine, if_pos rfl, found]
  rfl

theorem Carries.close (carries : transport.Carries connection address exchanges pending)
    (line : Nat) :
    (transport.modifyLine line (·.close)).Carries connection address exchanges pending := by
  by_cases own : line = connection
  · subst own
    exact carries.change Line.Carries.close
  · exact carries.modifyLine own

theorem Carries.noteAnswer_other (carries : transport.Carries connection address exchanges [])
    (line : Nat) :
    (transport.modifyLine line (·.noteAnswer)).Carries connection address exchanges [] := by
  by_cases own : line = connection
  · subst own
    exact carries.change fun carries => carries.noteAnswer_eq_self.symm ▸ carries
  · exact carries.modifyLine own

/-! ## Well-formed transports -/

/-- No connection is in two places, and each carries what its place asks for. -/
structure WellFormed (transport : Transport) : Prop where
  apart : transport.cache.Apart transport.inHand
  kept : ∀ address, ∀ idle ∈ transport.cache.kept address,
    transport.Carries idle.connection address idle.useCount []
  held : ∀ sending ∈ transport.sends, ∀ checkout, sending.stage.checkout? = some checkout →
    transport.Carries checkout.connection sending.address checkout.useCount sending.pending

theorem inHand_withoutSend_sublist (transport : Transport) (id : Nat) :
    (transport.withoutSend id).inHand.Sublist transport.inHand :=
  List.filter_sublist.filterMap _

theorem inHand_enter (transport : Transport) (sending : Sending) (stage : Stage) :
    (transport.enter sending stage).inHand =
      (stage.checkout?.map (·.connection)).toList ++ (transport.withoutSend sending.id).inHand := by
  have own : ({ sending with stage } : Sending).connection? =
    stage.checkout?.map (·.connection) := rfl
  simp only [inHand, enter, withoutSend, List.filterMap_cons, own]
  cases stage.checkout? <;> rfl

namespace WellFormed

theorem of_make (channel : Channel) (connectTimeout : Duration) (limits : Limits) :
    (make channel connectTimeout limits).WellFormed where
  apart := .of_empty
  kept address idle isKept := by simp [make, Cache.kept, Cache.shelf?] at isKept
  held sending among := by simp [make] at among

/-- At most one send holds a connection. -/
theorem holder_unique {other : Sending} (wellFormed : transport.WellFormed)
    (among : sending ∈ transport.sends) (amongToo : other ∈ transport.sends)
    (holds : sending.connection? = some connection)
    (holdsToo : other.connection? = some connection) :
    sending = other := by
  have once := List.pairwise_filterMap.mp wellFormed.apart.heldOnce
  by_contra different
  have symmetric : Std.Symm fun first second : Sending => ∀ held, first.connection? = some held →
      ∀ heldToo, second.connection? = some heldToo → held ≠ heldToo :=
    ⟨fun _ _ apart held holds heldToo holdsToo => (apart heldToo holdsToo held holds).symm⟩
  exact once.forall among amongToo different connection holds connection holdsToo rfl

theorem holder?_eq (wellFormed : transport.WellFormed) (among : sending ∈ transport.sends)
    (holds : sending.connection? = some connection) :
    transport.holder? connection = some sending := by
  cases found : transport.holder? connection with
  | none => exact absurd (mem_inHand.mpr ⟨sending, among, holds⟩) (notMem_inHand found)
  | some holder =>
    obtain ⟨amongToo, checkout, holdsToo, rfl⟩ := holder?_eq_some found
    rw [wellFormed.holder_unique amongToo among (connection?_eq_some holdsToo) holds]

theorem notKept (wellFormed : transport.WellFormed) (among : sending ∈ transport.sends)
    (holds : sending.connection? = some connection) (address : SocketAddress) :
    connection ∉ transport.cache.idleAt address :=
  fun isKept => wellFormed.apart.unheld isKept (mem_inHand.mpr ⟨sending, among, holds⟩)

/-- A send that is put aside puts its connection aside. -/
theorem aside (wellFormed : transport.WellFormed) (among : sending ∈ transport.sends)
    (holds : sending.connection? = some connection) :
    (transport.withoutSend sending.id).Aside connection := by
  refine ⟨fun isHeld => ?_, wellFormed.notKept among holds⟩
  obtain ⟨other, amongOthers, holdsToo⟩ := mem_inHand.mp isHeld
  obtain ⟨amongToo, different⟩ := List.mem_filter.mp amongOthers
  obtain rfl := wellFormed.holder_unique among amongToo holds holdsToo
  simp at different

/-! ### What keeps a transport well-formed -/

theorem withoutSend (wellFormed : transport.WellFormed) (id : Nat) :
    (transport.withoutSend id).WellFormed where
  apart := wellFormed.apart.of_sublist (fun _ => .refl _) (transport.inHand_withoutSend_sublist id)
  kept := wellFormed.kept
  held sending among := wellFormed.held sending (List.mem_of_mem_filter among)

/-- A send comes to a stage, with a connection that was put aside if the stage needs one. -/
theorem enter {stage : Stage} (wellFormed : (transport.withoutSend sending.id).WellFormed)
    (fits : ∀ checkout, stage.checkout? = some checkout →
      (transport.withoutSend sending.id).Aside checkout.connection ∧
        transport.Carries checkout.connection sending.address checkout.useCount
          { sending with stage }.pending) :
    (transport.enter sending stage).WellFormed where
  apart := by
    rw [inHand_enter]
    cases holds : stage.checkout? with
    | none => exact wellFormed.apart
    | some checkout =>
      obtain ⟨⟨notHeld, notKept⟩, _⟩ := fits checkout holds
      exact wellFormed.apart.cons notHeld notKept
  kept := wellFormed.kept
  held other among checkout holds := by
    cases List.mem_cons.mp among with
    | inl own =>
      subst own
      exact (fits checkout holds).2
    | inr among => exact wellFormed.held other among checkout holds

/-- A cache that keeps no more than before. -/
theorem recached {cache : Cache Nat} (wellFormed : transport.WellFormed)
    (fewer : ∀ address, (cache.kept address).Sublist (transport.cache.kept address)) :
    { transport with cache }.WellFormed where
  apart := wellFormed.apart.of_sublist fewer (.refl _)
  kept address idle isKept := wellFormed.kept address idle ((fewer address).subset isKept)
  held := wellFormed.held

/-- Connections that carry the same where it matters. -/
theorem relined {lines : List Line} (wellFormed : transport.WellFormed)
    (kept : ∀ {connection address exchanges}, connection ∈ transport.cache.idleAt address →
      transport.Carries connection address exchanges [] →
      { transport with lines }.Carries connection address exchanges [])
    (held : ∀ {connection address exchanges pending}, connection ∈ transport.inHand →
      transport.Carries connection address exchanges pending →
      { transport with lines }.Carries connection address exchanges pending) :
    { transport with lines }.WellFormed where
  apart := wellFormed.apart
  kept address idle isKept :=
    kept (List.mem_map_of_mem isKept) (wellFormed.kept address idle isKept)
  held sending among checkout holds := by
    refine held (mem_inHand.mpr ⟨sending, among, ?_⟩) (wellFormed.held sending among checkout holds)
    rw [Sending.connection?, holds]
    rfl

theorem modifyLine (wellFormed : transport.WellFormed) (aside : transport.Aside connection)
    (change : Line → Line) : (transport.modifyLine connection change).WellFormed := by
  refine wellFormed.relined (fun isKept carries => carries.modifyLine ?_)
    (fun isHeld carries => carries.modifyLine ?_)
  · rintro rfl
    exact aside.2 _ isKept
  · rintro rfl
    exact aside.1 isHeld

theorem close (wellFormed : transport.WellFormed) (line : Nat) :
    (transport.modifyLine line (·.close)).WellFormed :=
  wellFormed.relined (fun _ carries => carries.close line) (fun _ carries => carries.close line)

/-- An answer that nobody waits for belongs to a connection that was given up. -/
theorem noteAnswer {line : Nat} (wellFormed : transport.WellFormed)
    (unheld : line ∉ transport.inHand) :
    (transport.modifyLine line (·.noteAnswer)).WellFormed := by
  refine wellFormed.relined (fun _ carries => carries.noteAnswer_other line)
    (fun isHeld carries => carries.modifyLine ?_)
  rintro rfl
  exact unheld isHeld

theorem checkin {isOpen : Nat → Bool} {now : Nat} {checkout : Checkout Nat}
    (wellFormed : transport.WellFormed) (aside : transport.Aside checkout.connection)
    (carries : transport.Carries checkout.connection address (checkout.useCount + 1) []) :
    { transport with
      cache := transport.cache.checkin isOpen now address checkout }.WellFormed where
  apart := (wellFormed.apart.cons aside.1 aside.2).checkin
  kept other idle isKept := by
    simp only [Cache.kept_checkin] at isKept
    split at isKept
    · rename_i comesBack
      obtain ⟨rfl, _⟩ := comesBack
      cases List.mem_cons.mp isKept with
      | inl own =>
        subst own
        exact carries
      | inr isKept => exact wellFormed.kept other idle isKept
    · exact wellFormed.kept other idle isKept
  held := wellFormed.held

theorem lt_length_of_held (wellFormed : transport.WellFormed)
    (isHeld : connection ∈ transport.inHand) : connection < transport.lines.length := by
  obtain ⟨sending, among, holds⟩ := mem_inHand.mp isHeld
  obtain ⟨checkout, found, rfl⟩ := Option.map_eq_some_iff.mp holds
  exact (wellFormed.held sending among checkout found).lt_length

theorem lt_length_of_kept (wellFormed : transport.WellFormed)
    (isKept : connection ∈ transport.cache.idleAt address) :
    connection < transport.lines.length := by
  obtain ⟨idle, isIdle, rfl⟩ := List.mem_map.mp isKept
  exact (wellFormed.kept address idle isIdle).lt_length

/-- The number of the next connection belongs to none that is kept or in hand. -/
theorem aside_length (wellFormed : transport.WellFormed) :
    transport.Aside transport.lines.length :=
  ⟨fun isHeld => Nat.lt_irrefl _ (wellFormed.lt_length_of_held isHeld),
    fun _ isKept => Nat.lt_irrefl _ (wellFormed.lt_length_of_kept isKept)⟩

theorem newLine (wellFormed : transport.WellFormed) (line : Line) :
    { transport with lines := transport.lines ++ [line] }.WellFormed := by
  have further {connection address exchanges pending}
      (carries : transport.Carries connection address exchanges pending) :
      Carries { transport with lines := transport.lines ++ [line] } connection address exchanges
        pending := by
    obtain ⟨there, found, carries⟩ := carries
    have bound := (List.getElem?_eq_some_iff.mp found).1
    exact ⟨there, (List.getElem?_append_left bound).trans found, carries⟩
  exact wellFormed.relined (fun _ => further) (fun _ => further)

/-! ### Every step and every run -/

theorem acquired {after : Transport} {effects : List Effect} (wellFormed : transport.WellFormed)
    (acquires : transport.Acquires sending after effects) : after.WellFormed := by
  have rest := wellFormed.withoutSend sending.id
  cases acquires with
  | reuses events serves =>
    obtain ⟨idle, isKept, rfl⟩ := serves.wasKept
    obtain ⟨wasKept, notKept⟩ := serves.moves rest.apart
    refine enter (rest.recached serves.kept_sublist) fun checkout holds => ?_
    obtain rfl := Option.some.inj holds
    exact ⟨⟨rest.apart.unheld wasKept, notKept⟩, wellFormed.kept _ idle isKept⟩
  | dials events serves =>
    exact enter (rest.recached serves.kept_sublist) fun checkout holds => by cases holds

/-- A send writes its request to a connection that was put aside. -/
theorem writeTo {checkout : Checkout Nat}
    (wellFormed : (transport.withoutSend sending.id).WellFormed)
    (aside : (transport.withoutSend sending.id).Aside checkout.connection)
    (carries : transport.Carries checkout.connection sending.address checkout.useCount []) :
    (transport.writeTo sending checkout).1.WellFormed := by
  refine enter (wellFormed.modifyLine aside _) fun other holds => ?_
  obtain rfl := Option.some.inj holds
  exact ⟨aside, carries.change fun carries => carries.write sending.request⟩

theorem opened {secured : Option Secured} (wellFormed : transport.WellFormed) :
    (transport.opened sending secured).1.WellFormed := by
  have rest := wellFormed.withoutSend sending.id
  obtain ⟨notHeld, notKept⟩ := rest.aside_length
  have sameKept (address : SocketAddress) :
      (transport.cache.recordCreated sending.address).kept address =
        transport.cache.kept address := Cache.kept_recordCreated _
  refine writeTo ((rest.newLine _).recached fun address => sameKept address ▸ .refl _)
    ⟨notHeld, fun address isKept => notKept address ?_⟩ ?_
  · rw [Cache.idleAt_eq] at isKept ⊢
    exact sameKept address ▸ isKept
  · exact ⟨_, List.getElem?_concat_length, rfl, rfl, [], rfl, rfl⟩

theorem answered {checkout : Checkout Nat} {head response : Http.Response}
    (wellFormed : transport.WellFormed) (among : sending ∈ transport.sends)
    (receiving : sending.stage = .receiving checkout head) :
    ((transport.modifyLine checkout.connection (·.noteAnswer)).complete sending checkout
      response).1.WellFormed := by
  have holds : sending.stage.checkout? = some checkout := congrArg Stage.checkout? receiving
  have aside := wellFormed.aside among (connection?_eq_some holds)
  have carries := wellFormed.held sending among checkout holds
  rw [Sending.pending, receiving] at carries
  have rest := (wellFormed.withoutSend sending.id).modifyLine aside (·.noteAnswer)
  exact rest.checkin aside (carries.change Line.Carries.noteAnswer)

theorem step {input : Input} {after : Transport} {effects : List Effect}
    (wellFormed : transport.WellFormed)
    (transition : Transition transport input after effects) : after.WellFormed := by
  cases transition with
  | missed _ | refused _ _ => exact wellFormed
  | sent _ _ acquires | again _ _ acquires => exact wellFormed.acquired acquires
  | @wrote sending checkout among readying =>
    have holds : sending.stage.checkout? = some checkout := congrArg Stage.checkout? readying
    have carries := wellFormed.held sending among checkout holds
    rw [Sending.pending, readying] at carries
    exact writeTo (wellFormed.withoutSend _)
      (wellFormed.aside among (connection?_eq_some holds)) carries
  | @proceeded sending _ stage _ among proceeds =>
    refine enter (wellFormed.withoutSend sending.id) fun checkout holds => ?_
    cases proceeds <;> cases holds
  | @failed sending _ _ _ cache among fails =>
    have same : { transport with cache }.WellFormed :=
      wellFormed.recached fun address => fails.kept_eq address ▸ .refl _
    exact same.withoutSend sending.id
  | opened among opening => exact wellFormed.opened
  | @headed sending checkout response among waiting =>
    have holds : sending.stage.checkout? = some checkout := congrArg Stage.checkout? waiting
    have carries := wellFormed.held sending among checkout holds
    rw [Sending.pending, waiting] at carries
    refine enter (wellFormed.withoutSend _) fun other holdsToo => ?_
    obtain rfl := Option.some.inj holdsToo
    exact ⟨wellFormed.aside among (connection?_eq_some holds), carries⟩
  | answered body among receiving => exact wellFormed.answered among receiving
  | unclaimed body unheld => exact wellFormed.noteAnswer unheld
  | brokeOff among busy => exact (wellFormed.close _).withoutSend _
  | broke _ | closed _ => exact wellFormed.close _
  | cancelled id => exact wellFormed.withoutSend id
  | evicted address => exact wellFormed.recached (Cache.kept_evict_sublist _)
  | elapsed _ => exact ⟨wellFormed.apart, wellFormed.kept, wellFormed.held⟩

theorem run (wellFormed : transport.WellFormed) (inputs : List Input) :
    (transport.run inputs).1.WellFormed :=
  run_induction (motive := fun _ _ transport => transport.WellFormed) wellFormed
    (fun wellFormed stepped => wellFormed.step (.of_step stepped)) inputs

end WellFormed

end Transport

end OneHost.Connection
