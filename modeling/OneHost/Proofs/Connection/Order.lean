import OneHost.Proofs.Connection.Past

/-!
# Last back, first out

What a cache keeps and hands out can be told from the past alone. The connections that are kept for
an address stand in the order of their last returns, the latest first; whoever asks for one gets the
latest that has not closed and has not been idle for too long, and those that came back later are
given up.
-/

namespace OneHost.Connection.Desk

variable {α : Type} [DecidableEq α]

/-- When a connection came back: for which address, after how many other doings, and how long ago in
nanoseconds. -/
structure Return where
  address : SocketAddress
  turn : Nat
  age : Nat

/-- The last return of a connection. -/
def lastReturn? (connection : α) : List (Entry α) → Option Return
  | [] => none
  | (.giveBack other address, .done) :: past =>
    if other = connection then some ⟨address, past.length, 0⟩ else lastReturn? connection past
  | (.wait nanoseconds, _) :: past =>
    (lastReturn? connection past).map fun last => { last with age := last.age + nanoseconds }
  | _ :: past => lastReturn? connection past

/-- A connection came back after another one. -/
def ReturnedAfter (past : List (Entry α)) (newer older : α) : Prop :=
  ∃ last earlier, lastReturn? newer past = some last ∧ lastReturn? older past = some earlier ∧
    earlier.turn < last.turn

/-- A connection has not closed, and it came back less than the longest idle time ago. -/
def Usable (limits : Limits) (past : List (Entry α)) (connection : α) : Prop :=
  ¬ClosedIn past connection ∧
    ∃ last, lastReturn? connection past = some last ∧
      last.age < limits.idleTimeout.nanoseconds

variable {limits : Limits} {past : List (Entry α)} {desk : Desk α} {connection : α}
variable {address : SocketAddress} {now : Nat}

theorem turn_lt_length {last : Return} (returned : lastReturn? connection past = some last) :
    last.turn < past.length := by
  induction past generalizing last with
  | nil => simp [lastReturn?] at returned
  | cons entry past ih =>
    rw [List.length_cons]
    unfold lastReturn? at returned
    split at returned
    · contradiction
    · rename_i equal
      obtain ⟨rfl, rfl⟩ := List.cons.inj equal
      split at returned
      · obtain rfl := Option.some.inj returned
        exact Nat.lt_succ_self _
      · exact Nat.lt_succ_of_lt (ih returned)
    · rename_i equal
      obtain ⟨rfl, rfl⟩ := List.cons.inj equal
      obtain ⟨earlier, found, rfl⟩ := Option.map_eq_some_iff.mp returned
      have bound := ih found
      exact Nat.lt_succ_of_lt bound
    · rename_i equal
      obtain ⟨rfl, rfl⟩ := List.cons.inj equal
      exact Nat.lt_succ_of_lt (ih returned)

/-! ## What is kept follows from the past -/

/-- A connection is kept for an address as it came back for it. -/
def ReturnedAs (past : List (Entry α)) (now : Nat) (address : SocketAddress) (idle : Idle α) :
    Prop :=
  idle.idleSince ≤ now ∧
    ∃ turn, lastReturn? idle.connection past = some ⟨address, turn, now - idle.idleSince⟩

/-- Connections are kept for an address in the order in which they came back for it. -/
structure Filed (past : List (Entry α)) (now : Nat) (address : SocketAddress)
    (idles : List (Idle α)) : Prop where
  returned : ∀ idle ∈ idles, ReturnedAs past now address idle
  ordered : idles.Pairwise fun newer older => ReturnedAfter past newer.connection older.connection

namespace Filed

variable {idles fewer : List (Idle α)}

theorem sublist (filed : Filed past now address idles) (some : fewer.Sublist idles) :
    Filed past now address fewer where
  returned idle isKept := filed.returned idle (some.subset isKept)
  ordered := filed.ordered.sublist some

theorem congr {later : List (Entry α)} (filed : Filed past now address idles)
    (same : ∀ idle ∈ idles, lastReturn? idle.connection later = lastReturn? idle.connection past) :
    Filed later now address idles where
  returned idle isKept := by
    obtain ⟨since, turn, returned⟩ := filed.returned idle isKept
    exact ⟨since, turn, (same idle isKept).trans returned⟩
  ordered := by
    refine filed.ordered.imp_of_mem fun isKept isKeptToo after => ?_
    obtain ⟨last, earlier, newer, older, before⟩ := after
    exact ⟨last, earlier, (same _ isKept).trans newer, (same _ isKeptToo).trans older, before⟩

theorem wait {handled : Handled α} (filed : Filed past now address idles) (nanoseconds : Nat) :
    Filed ((.wait nanoseconds, handled) :: past) (now + nanoseconds) address idles where
  returned idle isKept := by
    obtain ⟨since, turn, returned⟩ := filed.returned idle isKept
    refine ⟨Nat.le_add_right_of_le since, turn, ?_⟩
    simp only [lastReturn?, returned, Option.map_some]
    rw [Nat.sub_add_comm since]
  ordered := by
    refine filed.ordered.imp fun after => ?_
    obtain ⟨last, earlier, newer, older, before⟩ := after
    refine ⟨{ last with age := last.age + nanoseconds },
      { earlier with age := earlier.age + nanoseconds }, ?_, ?_, before⟩
    · simp [lastReturn?, newer]
    · simp [lastReturn?, older]

/-- The connection that comes back comes before the others. -/
theorem cons {checkout : Checkout α} (filed : Filed past now address idles)
    (others : ∀ idle ∈ idles, checkout.connection ≠ idle.connection) :
    Filed ((.giveBack checkout.connection address, .done) :: past) now address
      (checkout.returned now :: idles) := by
  have own : lastReturn? checkout.connection
      ((.giveBack checkout.connection address, .done) :: past) =
        some ⟨address, past.length, 0⟩ := if_pos rfl
  have same : ∀ idle ∈ idles, lastReturn? idle.connection
      ((.giveBack checkout.connection address, .done) :: past) =
        lastReturn? idle.connection past := fun idle isKept => if_neg (others idle isKept)
  have rest := filed.congr same
  constructor
  · rw [List.forall_mem_cons]
    refine ⟨⟨Nat.le_refl _, past.length, ?_⟩, rest.returned⟩
    rw [Checkout.returned, own, Nat.sub_self]
  · rw [List.pairwise_cons]
    refine ⟨fun idle isKept => ?_, rest.ordered⟩
    obtain ⟨_, turn, returned⟩ := filed.returned idle isKept
    exact ⟨_, _, own, (same idle isKept).trans returned, turn_lt_length returned⟩

end Filed

/-- A desk is as its past has it. -/
structure Orderly (limits : Limits) (past : List (Entry α)) (desk : Desk α) : Prop where
  sameLimits : desk.cache.limits = limits
  bounded : ∀ address, (desk.cache.kept address).length ≤ limits.maxIdlePerAddress
  apart : desk.cache.Apart desk.inHand
  made : ∀ connection, desk.Present connection → MadeIn past connection
  filed : ∀ address, Filed past desk.now address (desk.cache.kept address)
  closed : ∀ connection, desk.isOpen connection = true ↔ ¬ClosedIn past connection

namespace Orderly

variable {handling : Handling α} {handled : Handled α} {after : Desk α}

theorem of_start : Orderly limits [] ({ cache := { limits } } : Desk α) where
  sameLimits := rfl
  bounded _ := Nat.zero_le _
  apart := .of_empty
  made connection present := by simp [Present, inHand, Cache.idleAt, Cache.shelf?] at present
  filed _ := ⟨by simp [Cache.kept, Cache.shelf?], .nil⟩
  closed connection := by simp [isOpen, ClosedIn]

theorem bounded_step (orderly : Orderly limits past desk)
    (happens : Happens desk handling handled after) (address : SocketAddress) :
    (after.cache.kept address).length ≤ limits.maxIdlePerAddress := by
  have bounded := orderly.bounded address
  cases happens with
  | made _ | refused _ _ | closed _ | waited _ => exact bounded
  | gaveBack _ _ =>
    rw [Cache.kept_checkin]
    split
    · rename_i comesBack
      rw [← orderly.sameLimits]
      exact comesBack.2.2
    · exact bounded
  | took serves _ => exact Nat.le_trans (serves.kept_sublist _).length_le bounded
  | recordedCreated _ | recordedFailed _ => simpa using bounded
  | evicted _ => exact Nat.le_trans (Cache.kept_evict_sublist _ _).length_le bounded

theorem apart_step (orderly : Orderly limits past desk) (isNew : IsNew past handling)
    (happens : Happens desk handling handled after) : after.cache.Apart after.inHand := by
  have apart := orderly.apart
  cases happens with
  | made connection =>
    have absent : ¬desk.Present connection := fun present => isNew (orderly.made _ present)
    exact apart.cons (fun isHeld => absent (.inl isHeld))
      fun address isKept => absent (.inr ⟨address, isKept⟩)
  | refused _ _ | closed _ | waited _ => exact apart
  | gaveBack _ among => exact (apart.perm (among.map _)).checkin
  | @took _ result _ serves _ =>
    have apartAfter := apart.serves serves
    cases result <;> exact apartAfter
  | recordedCreated _ | recordedFailed _ => exact apart.of_kept_eq (by simp)
  | evicted address => exact apart.evict address

theorem filed_step (orderly : Orderly limits past desk)
    (happens : Happens desk handling handled after) (address : SocketAddress) :
    Filed ((handling, handled) :: past) after.now address (after.cache.kept address) := by
  have filed := orderly.filed address
  cases happens with
  | made _ | refused _ _ | closed _ => exact filed.congr fun _ _ => rfl
  | waited nanoseconds => exact filed.wait nanoseconds
  | @gaveBack checkout rest place among =>
    -- The connection that comes back was in hand, so it is none of those that are kept.
    have others : ∀ idle ∈ desk.cache.kept address, checkout.connection ≠ idle.connection := by
      intro idle isKept own
      have isHeld : checkout.connection ∈ desk.inHand :=
        (among.map _).mem_iff.mpr List.mem_cons_self
      rw [own] at isHeld
      exact orderly.apart.unheld (List.mem_map_of_mem isKept) isHeld
    rw [Cache.kept_checkin]
    split
    · rename_i comesBack
      obtain ⟨rfl, _⟩ := comesBack
      exact filed.cons others
    · exact filed.congr fun idle isKept => if_neg (others idle isKept)
  | @took place result cache serves _ =>
    refine (filed.sublist (serves.kept_sublist address)).congr fun _ _ => ?_
    cases result <;> rfl
  | recordedCreated _ | recordedFailed _ =>
    simp only [Cache.kept_recordCreated, Cache.kept_recordFailed]
    exact filed.congr fun _ _ => rfl
  | evicted _ =>
    exact (filed.sublist (Cache.kept_evict_sublist _ _)).congr fun _ _ => rfl

theorem closed_step (orderly : Orderly limits past desk)
    (happens : Happens desk handling handled after) (connection : α) :
    after.isOpen connection = true ↔ ¬ClosedIn ((handling, handled) :: past) connection := by
  have closed := orderly.closed connection
  cases happens with
  | closed other =>
    have closedNow : ClosedIn ((.close other, .done) :: past) connection ↔
        connection = other ∨ ClosedIn past connection := by
      simp [ClosedIn, exists_or]
    rw [closedNow, not_or, ← closed]
    simp [isOpen]
  | made _ | refused _ _ | gaveBack _ _ | took _ _ | recordedCreated _ | recordedFailed _
    | evicted _ | waited _ => simpa [ClosedIn, isOpen] using closed

theorem step (orderly : Orderly limits past desk) (isNew : IsNew past handling)
    (happens : Happens desk handling handled after) :
    Orderly limits ((handling, handled) :: past) after where
  sameLimits := by
    rw [← orderly.sameLimits]
    cases happens with
    | took _ sameLimits => exact sameLimits
    | gaveBack _ _ => exact Cache.limits_checkin _ _
    | evicted _ => exact Cache.limits_evict _
    | _ => rfl
  bounded := orderly.bounded_step happens
  apart := orderly.apart_step isNew happens
  made connection present := by
    cases happens.present present with
    | inl before => exact (orderly.made connection before).mono (List.subset_cons_self _ _)
    | inr isMade => exact ⟨handled, isMade ▸ List.mem_cons_self⟩
  filed := orderly.filed_step happens
  closed := orderly.closed_step happens

theorem of_reached (reached : Reached limits past desk) : Orderly limits past desk := by
  induction reached with
  | start => exact .of_start
  | step _ isNew stepped ih => exact ih.step isNew (.of_step stepped)

theorem isUsable_iff {idle : Idle α} (orderly : Orderly limits past desk)
    (isKept : idle ∈ desk.cache.kept address) :
    idle.isUsable desk.isOpen desk.cache.limits.idleTimeout desk.now = true ↔
      Usable limits past idle.connection := by
  obtain ⟨_, turn, returned⟩ := (orderly.filed address).returned idle isKept
  rw [Idle.isUsable, Bool.and_eq_true, decide_eq_true_eq, orderly.closed, orderly.sameLimits]
  apply and_congr_right
  intro _
  constructor
  · intro short
    exact ⟨_, returned, short⟩
  · rintro ⟨last, returnedToo, short⟩
    obtain rfl := Option.some.inj (returned.symm.trans returnedToo)
    exact short

end Orderly

/-! ## Who goes out -/

/-- What someone gets who asks for a connection to an address. Whatever is given up on the way is
gone for good, what stands behind stays as it is, and no other address is touched. -/
inductive Gets (limits : Limits) (past : List (Entry α)) (desk : Desk α)
    (address : SocketAddress) : Handled α → Desk α → Prop
  | nothing {after : Desk α}
      (useless : ∀ other ∈ desk.cache.idleAt address, ¬Usable limits past other ∧
        GoneForGood limits ((.take address, .nothing) :: past) other)
      (emptied : after.cache.kept address = [])
      (elsewhere : ∀ other, other ≠ address → after.cache.kept other = desk.cache.kept other)
      (sameHeld : after.held = desk.held) :
      Gets limits past desk address .nothing after
  | latest {after : Desk α} {discarded older : List (Idle α)} {idle : Idle α}
      {checkout : Checkout α}
      (isKept : desk.cache.kept address = discarded ++ idle :: older)
      (same : checkout = ⟨idle.connection, idle.useCount, idle.createdAt⟩)
      (usable : Usable limits past idle.connection)
      (newer : ∀ other ∈ discarded, ReturnedAfter past other.connection idle.connection ∧
        ¬Usable limits past other.connection ∧
        GoneForGood limits ((.take address, .inHand checkout) :: past) other.connection)
      (earlier : ∀ other ∈ older, ReturnedAfter past idle.connection other.connection)
      (remains : after.cache.kept address = older)
      (elsewhere : ∀ other, other ≠ address → after.cache.kept other = desk.cache.kept other)
      (taken : after.held = checkout :: desk.held) :
      Gets limits past desk address (.inHand checkout) after

theorem Orderly.notUsable {idle : Idle α} (orderly : Orderly limits past desk)
    (isKept : idle ∈ desk.cache.kept address)
    (useless : idle.isUsable desk.isOpen desk.cache.limits.idleTimeout desk.now = false) :
    ¬Usable limits past idle.connection := by
  rw [← orderly.isUsable_iff isKept, useless]
  exact Bool.false_ne_true

/-- Whatever was kept before a step, and is neither kept nor in hand after it, is gone. -/
theorem Reached.gone_of_kept {entry : Entry α} {after : Desk α} (reached : Reached limits past desk)
    (reachedAfter : Reached limits (entry :: past) after)
    (wasKept : connection ∈ desk.cache.idleAt address) (notHeld : connection ∉ after.inHand)
    (notKept : ∀ other, connection ∉ after.cache.idleAt other) :
    GoneForGood limits (entry :: past) connection := by
  have made : MadeIn past connection :=
    (Orderly.of_reached reached).made connection (.inr ⟨address, wasKept⟩)
  apply reachedAfter.goneForGood (made.mono (List.subset_cons_self entry past))
  rintro (isHeld | ⟨other, isKept⟩)
  · exact notHeld isHeld
  · exact notKept other isKept

theorem gets_nothing {cache : Cache α} (reached : Reached limits past desk)
    (reachedAfter : Reached limits ((.take address, .nothing) :: past) { desk with cache })
    (useless : ∀ idle ∈ desk.cache.kept address,
      idle.isUsable desk.isOpen desk.cache.limits.idleTimeout desk.now = false)
    (remains : ∀ other, cache.kept other =
      if other = address then [] else desk.cache.kept other) :
    Gets limits past desk address .nothing { desk with cache } := by
  have orderly := Orderly.of_reached reached
  apply Gets.nothing
  case useless =>
    intro connection wasKept
    obtain ⟨idle, isKept, rfl⟩ := List.mem_map.mp wasKept
    refine ⟨orderly.notUsable isKept (useless idle isKept), ?_⟩
    apply reached.gone_of_kept reachedAfter wasKept (orderly.apart.unheld wasKept)
    exact orderly.apart.notMem_idleAt (List.append_nil _).symm remains isKept
  case emptied => simp [remains]
  case elsewhere =>
    intro other different
    simp [remains, different]
  case sameHeld => rfl

theorem gets_latest {cache : Cache α} {discarded older : List (Idle α)} {idle : Idle α}
    {checkout : Checkout α} (reached : Reached limits past desk)
    (reachedAfter : Reached limits ((.take address, .inHand checkout) :: past)
      { desk with cache, held := checkout :: desk.held })
    (same : checkout = ⟨idle.connection, idle.useCount, idle.createdAt⟩)
    (isKept : desk.cache.kept address = discarded ++ idle :: older)
    (useless : ∀ idle ∈ discarded,
      idle.isUsable desk.isOpen desk.cache.limits.idleTimeout desk.now = false)
    (useful : idle.isUsable desk.isOpen desk.cache.limits.idleTimeout desk.now = true)
    (remains : ∀ other, cache.kept other =
      if other = address then older else desk.cache.kept other) :
    Gets limits past desk address (.inHand checkout)
      { desk with cache, held := checkout :: desk.held } := by
  have orderly := Orderly.of_reached reached
  have ordered := (orderly.filed address).ordered
  rw [isKept, List.pairwise_append, List.pairwise_cons] at ordered
  obtain ⟨_, ⟨before, _⟩, behind⟩ := ordered
  apply Gets.latest isKept same
  case usable =>
    have isThere : idle ∈ desk.cache.kept address := by simp [isKept]
    exact (orderly.isUsable_iff isThere).mp useful
  case newer =>
    intro other among
    have wasKept : other ∈ desk.cache.kept address := by
      rw [isKept]
      exact List.mem_append_left _ among
    have wasIdle : other.connection ∈ desk.cache.idleAt address := List.mem_map_of_mem wasKept
    refine ⟨behind other among idle (.head _), orderly.notUsable wasKept (useless other among), ?_⟩
    apply reached.gone_of_kept reachedAfter wasIdle
    · intro isHeld
      cases List.mem_cons.mp isHeld with
      | inl own =>
        have once := orderly.apart.once address
        rw [Cache.idleAt_eq, isKept, List.map_append, List.map_cons] at once
        refine List.disjoint_of_nodup_append once (List.mem_map_of_mem among) ?_
        rw [own, same]
        exact List.mem_cons_self
      | inr before => exact orderly.apart.unheld wasIdle before
    · have isKeptInFront : desk.cache.kept address = (discarded ++ [idle]) ++ older := by
        simp [isKept]
      exact orderly.apart.notMem_idleAt isKeptInFront remains (List.mem_append_left _ among)
  case earlier => exact before
  case remains => simp [remains]
  case elsewhere =>
    intro other different
    simp [remains, different]
  case taken => rfl

theorem gets_of_reached (reached : Reached limits past desk) (address : SocketAddress) :
    Gets limits past desk address (desk.step (.take address)).1
      (desk.step (.take address)).2.2 := by
  generalize stepped : desk.step (.take address) = outcome
  obtain ⟨handled, events, after⟩ := outcome
  have reachedAfter : Reached limits ((.take address, handled) :: past) after :=
    reached.step trivial stepped
  cases Happens.of_step stepped with
  | took serves _ =>
    cases serves with
    | nothing useless remains => exact gets_nothing reached reachedAfter useless remains
    | found isKept useless useful remains =>
      exact gets_latest reached reachedAfter rfl isKept useless useful remains

/-- Whatever has happened at a desk: no address has more connections than the limit allows, none is
in two places, each is kept for the address for which it came back last, the latest that can be used
goes out, and the counts tell how many are kept. -/
theorem kept_as_they_came_back (reached : Reached limits past desk) :
    (∀ address, (desk.cache.idleAt address).length ≤ limits.maxIdlePerAddress) ∧
      desk.cache.Apart desk.inHand ∧
      (∀ address, ∀ connection ∈ desk.cache.idleAt address,
        ∃ last, lastReturn? connection past = some last ∧ last.address = address) ∧
      (∀ address, Gets limits past desk address (desk.step (.take address)).1
        (desk.step (.take address)).2.2) ∧
      ∀ address, (desk.cache.stats address).elim 0 (·.idle) =
        (desk.cache.idleAt address).length := by
  have orderly := Orderly.of_reached reached
  refine ⟨fun address => ?_, orderly.apart, fun address connection isKept => ?_,
    gets_of_reached reached, desk.cache.idle_stats⟩
  · rw [Cache.idleAt_eq, List.length_map]
    exact orderly.bounded address
  · obtain ⟨idle, isIdle, rfl⟩ := List.mem_map.mp isKept
    obtain ⟨_, turn, returned⟩ := (orderly.filed address).returned idle isIdle
    exact ⟨_, returned, rfl⟩

/-- Two connections came back for an address, and then the second one was closed. -/
def secondClosed (address : SocketAddress) : List (Entry Nat) :=
  [(.close 2, .done), (.giveBack 2 address, .done), (.giveBack 1 address, .done),
    (.make 2, .inHand ⟨2, 0, 0⟩), (.make 1, .inHand ⟨1, 0, 0⟩)]

/-- Whoever asks for a connection then gets the first one, on its second use. -/
theorem kept_as_they_came_back_secondClosed :
    ∃ desk after, Reached ⟨2, ⟨90⟩⟩ (secondClosed ⟨.v4 ⟨10, 0, 0, 1⟩, 80⟩) desk ∧
      desk.cache.idleAt ⟨.v4 ⟨10, 0, 0, 1⟩, 80⟩ = [2, 1] ∧
      Gets ⟨2, ⟨90⟩⟩ (secondClosed ⟨.v4 ⟨10, 0, 0, 1⟩, 80⟩) desk ⟨.v4 ⟨10, 0, 0, 1⟩, 80⟩
        (.inHand ⟨1, 1, 0⟩) after := by
  have firstNew : IsNew ([] : List (Entry Nat)) (.make 1) := by simp [IsNew, MadeIn]
  have secondNew : IsNew [((.make 1, .inHand ⟨1, 0, 0⟩) : Entry Nat)] (.make 2) := by
    simp [IsNew, MadeIn]
  have reached : Reached ⟨2, ⟨90⟩⟩ (secondClosed ⟨.v4 ⟨10, 0, 0, 1⟩, 80⟩) _ :=
    .step (.step (.step (.step (.step .start firstNew rfl) secondNew rfl) trivial rfl) trivial
      rfl) trivial rfl
  exact ⟨_, _, reached, rfl, (kept_as_they_came_back reached).2.2.2.1 _⟩

end OneHost.Connection.Desk
