import OneHost.Connection.Handling
import OneHost.Proofs.Connection.Keeping

/-!
# The past of a desk

The past of a desk is what was done at it, the last first, with what came of it. A connection is
made once; from then on it is in hand or kept, until it is given up, and then it is never seen
again.
-/

namespace OneHost.Connection.Desk

variable {α : Type}

/-- Something that was done at a desk, with what came of it. -/
abbrev Entry (α : Type) := Handling α × Handled α

/-- The connections in hand. -/
def inHand (desk : Desk α) : List α :=
  desk.held.map (·.connection)

/-- A connection is in hand or kept. -/
def Present (desk : Desk α) (connection : α) : Prop :=
  connection ∈ desk.inHand ∨ ∃ address, connection ∈ desk.cache.idleAt address

theorem Present.of_evict {desk : Desk α} {connection : α} {address : SocketAddress}
    (present : Present { desk with cache := (desk.cache.evict address).2 } connection) :
    desk.Present connection := by
  cases present with
  | inl isHeld => exact .inl isHeld
  | inr isKept =>
    obtain ⟨other, isKept⟩ := isKept
    exact .inr ⟨other, ((Cache.kept_evict_sublist _ _).map _).subset isKept⟩

/-- A connection was made in the past. -/
def MadeIn (past : List (Entry α)) (connection : α) : Prop :=
  ∃ handled, (.make connection, handled) ∈ past

theorem MadeIn.mono {past later : List (Entry α)} {connection : α} (made : MadeIn past connection)
    (further : past ⊆ later) : MadeIn later connection := by
  obtain ⟨handled, entry⟩ := made
  exact ⟨handled, further entry⟩

/-- A connection was closed in the past. -/
def ClosedIn (past : List (Entry α)) (connection : α) : Prop :=
  ∃ handled, (.close connection, handled) ∈ past

/-- Whatever is made has not been made before. -/
def IsNew (past : List (Entry α)) : Handling α → Prop
  | .make connection => ¬MadeIn past connection
  | _ => True

variable [DecidableEq α]

/-- A desk has come about from one with an empty cache. -/
inductive Reached (limits : Limits) : List (Entry α) → Desk α → Prop
  | start : Reached limits [] { cache := { limits } }
  | step {past : List (Entry α)} {desk after : Desk α} {handling : Handling α}
      {handled : Handled α} {events : List Event} (reached : Reached limits past desk)
      (isNew : IsNew past handling) (stepped : desk.step handling = (handled, events, after)) :
      Reached limits ((handling, handled) :: past) after

/-- A connection is never in hand nor kept again, whatever happens from now on. -/
def GoneForGood (limits : Limits) (past : List (Entry α)) (connection : α) : Prop :=
  ∀ later after, Reached limits (later ++ past) after → ¬after.Present connection

variable {limits : Limits} {past : List (Entry α)} {desk : Desk α} {connection : α}

/-! ## One thing at a time -/

/-- What a step does. -/
inductive Happens (desk : Desk α) : Handling α → Handled α → Desk α → Prop
  | made (connection : α) :
      Happens desk (.make connection) (.inHand (.fresh connection desk.now))
        { desk with held := .fresh connection desk.now :: desk.held }
  | refused {connection : α} (address : SocketAddress) (absent : connection ∉ desk.inHand) :
      Happens desk (.giveBack connection address) .notHeld desk
  | gaveBack {checkout : Checkout α} {rest : List (Checkout α)} (address : SocketAddress)
      (among : desk.held.Perm (checkout :: rest)) :
      Happens desk (.giveBack checkout.connection address) .done
        { desk with
          held := rest
          cache := desk.cache.checkin desk.isOpen desk.now address checkout }
  | took {address : SocketAddress} {result : Option (Checkout α)} {cache : Cache α}
      (serves : desk.cache.Serves desk.isOpen desk.now address result cache)
      (sameLimits : cache.limits = desk.cache.limits) :
      Happens desk (.take address) (result.elim .nothing .inHand)
        { desk with cache, held := result.toList ++ desk.held }
  | closed (connection : α) :
      Happens desk (.close connection) .done { desk with closed := connection :: desk.closed }
  | recordedCreated (address : SocketAddress) :
      Happens desk (.recordCreated address) .done
        { desk with cache := desk.cache.recordCreated address }
  | recordedFailed (address : SocketAddress) :
      Happens desk (.recordFailed address) .done
        { desk with cache := desk.cache.recordFailed address }
  | evicted (address : SocketAddress) :
      Happens desk (.evict address) .done { desk with cache := (desk.cache.evict address).2 }
  | waited (nanoseconds : Nat) :
      Happens desk (.wait nanoseconds) .done { desk with now := desk.now + nanoseconds }

theorem happens_step (desk : Desk α) (handling : Handling α) :
    Happens desk handling (desk.step handling).1 (desk.step handling).2.2 := by
  cases handling with
  | make connection => exact .made connection
  | giveBack connection address =>
    simp only [step]
    split
    · rename_i absent
      refine .refused address fun isHeld => ?_
      obtain ⟨checkout, held, own⟩ := List.mem_map.mp isHeld
      simpa [own] using List.find?_eq_none.mp absent checkout held
    · rename_i checkout found
      obtain ⟨own, before, behind, split, others⟩ := List.find?_eq_some_iff_append.mp found
      obtain rfl : checkout.connection = connection := by simpa using own
      have rest : desk.held.eraseP (fun checkout' =>
          decide (checkout'.connection = checkout.connection)) = before ++ behind := by
        rw [split, List.eraseP_append_right _ (by simpa using others),
          List.eraseP_cons_of_pos (by simp)]
      rw [rest]
      exact .gaveBack address (split ▸ List.perm_middle)
  | take address =>
    have serves := desk.cache.serves_checkout desk.isOpen desk.now address
    have sameLimits : (desk.cache.checkout desk.isOpen desk.now address).2.2.limits =
      desk.cache.limits := Cache.limits_checkout _
    simp only [step]
    split
    · rename_i result
      rw [result] at serves sameLimits
      exact .took serves sameLimits
    · rename_i result
      rw [result] at serves sameLimits
      exact .took serves sameLimits
  | close connection => exact .closed connection
  | recordCreated address => exact .recordedCreated address
  | recordFailed address => exact .recordedFailed address
  | evict address => exact .evicted address
  | wait nanoseconds => exact .waited nanoseconds

theorem Happens.of_step {handling : Handling α} {handled : Handled α} {events : List Event}
    {after : Desk α} (stepped : desk.step handling = (handled, events, after)) :
    Happens desk handling handled after := by
  have happens := happens_step desk handling
  rwa [stepped] at happens

/-! ## Where connections come from -/

/-- Whatever is kept for an address after a step was kept for it before, or is given back for it. -/
theorem Happens.idle_origin {handling : Handling α} {handled : Handled α} {after : Desk α}
    {address : SocketAddress} (happens : Happens desk handling handled after)
    (isKept : connection ∈ after.cache.idleAt address) :
    connection ∈ desk.cache.idleAt address ∨
      handling = .giveBack connection address ∧ handled = .done ∧ connection ∈ desk.inHand := by
  cases happens with
  | made _ | refused _ _ | closed _ | waited _ => exact .inl isKept
  | gaveBack _ among =>
    rcases Cache.mem_idleAt_checkin isKept with before | ⟨rfl, rfl⟩
    · exact .inl before
    · exact .inr ⟨rfl, rfl, (among.map _).mem_iff.mpr List.mem_cons_self⟩
  | took serves _ => exact .inl (((serves.kept_sublist _).map _).subset isKept)
  | recordedCreated _ | recordedFailed _ =>
    rw [Cache.idleAt_eq] at isKept
    simpa [Cache.idleAt_eq] using isKept
  | evicted _ => exact .inl (((Cache.kept_evict_sublist _ _).map _).subset isKept)

/-- Whatever is taken for an address was kept for it. -/
theorem Happens.wasKept {checkout : Checkout α} {after : Desk α} {address : SocketAddress}
    (happens : Happens desk (.take address) (.inHand checkout) after) :
    checkout.connection ∈ desk.cache.idleAt address := by
  generalize isTaken : (.inHand checkout : Handled α) = handled at happens
  cases happens with
  | @took _ result cache serves _ =>
    cases result with
    | none => contradiction
    | some other =>
      obtain rfl := Handled.inHand.inj isTaken
      obtain ⟨idle, isKept, rfl⟩ := serves.wasKept
      exact List.mem_map_of_mem isKept

/-- Whatever comes into hand is new or was kept for the address that is asked for. -/
theorem Happens.held_origin {handling : Handling α} {handled : Handled α} {after : Desk α}
    (happens : Happens desk handling handled after) (isHeld : connection ∈ after.inHand) :
    connection ∈ desk.inHand ∨ handling = .make connection ∨
      ∃ address, connection ∈ desk.cache.idleAt address := by
  cases happens with
  | made _ =>
    cases List.mem_cons.mp isHeld with
    | inl own => exact .inr (.inl (congrArg Handling.make own.symm))
    | inr before => exact .inl before
  | gaveBack _ among =>
    exact .inl ((among.map _).mem_iff.mpr (List.mem_cons_of_mem _ isHeld))
  | @took address result cache serves _ =>
    cases serves with
    | nothing _ _ => exact .inl isHeld
    | @found _ discarded older idle wasKept _ _ _ =>
      cases List.mem_cons.mp isHeld with
      | inl own =>
        refine .inr (.inr ⟨address, ?_⟩)
        simp [own, Cache.idleAt_eq, wasKept]
      | inr before => exact .inl before
  | refused _ _ | closed _ | recordedCreated _ | recordedFailed _ | evicted _ | waited _ =>
    exact .inl isHeld

theorem Happens.present {handling : Handling α} {handled : Handled α} {after : Desk α}
    (happens : Happens desk handling handled after) (present : after.Present connection) :
    desk.Present connection ∨ handling = .make connection := by
  cases present with
  | inl isHeld =>
    rcases happens.held_origin isHeld with before | isMade | wasKept
    · exact .inl (.inl before)
    · exact .inr isMade
    · exact .inl (.inr wasKept)
  | inr isKept =>
    obtain ⟨address, isKept⟩ := isKept
    rcases happens.idle_origin isKept with before | ⟨_, _, wasHeld⟩
    · exact .inl (.inr ⟨address, before⟩)
    · exact .inl (.inl wasHeld)

/-! ## Gone for good -/

/-- The past decides what has become of a desk. -/
theorem Reached.unique {other : Desk α} (reached : Reached limits past desk)
    (reachedToo : Reached limits past other) : desk = other := by
  induction reached generalizing other with
  | start =>
    cases reachedToo
    rfl
  | step _ _ stepped ih =>
    cases reachedToo with
    | step reachedToo _ steppedToo =>
      rw [ih reachedToo, steppedToo] at stepped
      exact (congrArg (·.2.2) stepped).symm

theorem Reached.goneForGood (reached : Reached limits past desk) (made : MadeIn past connection)
    (absent : ¬desk.Present connection) : GoneForGood limits past connection := by
  intro later
  induction later with
  | nil =>
    intro after reachedAfter
    exact reached.unique reachedAfter ▸ absent
  | cons entry later ih =>
    intro after reachedAfter present
    cases reachedAfter with
    | step reachedBefore isNew stepped =>
      cases (Happens.of_step stepped).present present with
      | inl presentBefore => exact ih _ reachedBefore presentBefore
      | inr isMade =>
        subst isMade
        exact isNew (made.mono (List.subset_append_right _ _))

end OneHost.Connection.Desk
