import Mathlib.Data.List.Perm.Lattice
import OneHost.Connection.Cache

/-!
# What is kept for each address

All that the operations of a cache do can be said of the connections that are kept for each address.
Whoever takes connections out of a cache and brings them back works with a cache and the connections
in hand; `Apart` says that none of these connections is in two places, and holds through every
operation.
-/

namespace OneHost.Connection

variable {α : Type}

/-- How a connection is kept that comes back. -/
def Checkout.returned (checkout : Checkout α) (now : Nat) : Idle α :=
  ⟨checkout.connection, now, checkout.useCount + 1, checkout.createdAt⟩

namespace Cache

variable {cache after : Cache α} {isOpen : α → Bool} {now : Nat}
variable {address other : SocketAddress}

/-- What is kept for an address, the last to come back first. -/
def kept (cache : Cache α) (address : SocketAddress) : List (Idle α) :=
  ((cache.shelf? address).getD {}).connections

theorem idleAt_eq (cache : Cache α) (address : SocketAddress) :
    cache.idleAt address = (cache.kept address).map (·.connection) := rfl

theorem idle_stats (cache : Cache α) (address : SocketAddress) :
    (cache.stats address).elim 0 (·.idle) = (cache.idleAt address).length := by
  unfold stats idleAt
  cases cache.shelf? address with
  | none => rfl
  | some shelf => simp [Shelf.stats]

/-! ## Each operation -/

theorem lookup_filter_ne {β : Type} (entries : List (SocketAddress × β)) :
    (entries.filter fun entry => entry.1 ≠ address).lookup other =
      if other = address then none else entries.lookup other := by
  induction entries with
  | nil => simp
  | cons entry entries ih =>
    obtain ⟨key, value⟩ := entry
    by_cases own : key = address
    · subst own
      simp only [List.filter_cons, ne_eq, not_true_eq_false, decide_false, Bool.false_eq_true,
        if_false, ih, List.lookup_cons]
      split
      · rfl
      · rename_i different
        rw [beq_false_of_ne different]
    · simp only [List.filter_cons, ne_eq, own, not_false_eq_true, decide_true, if_true,
        List.lookup_cons, ih]
      split
      · rename_i equal
        rw [if_neg (beq_iff_eq.mp equal ▸ own)]
      · rfl

theorem shelf?_setShelf (cache : Cache α) (shelf : Shelf α) :
    (cache.setShelf address shelf).shelf? other =
      if other = address then some shelf else cache.shelf? other := by
  simp only [shelf?, setShelf, List.lookup_cons, lookup_filter_ne]
  by_cases own : other = address
  · simp [own]
  · simp [own, beq_false_of_ne own]

theorem kept_setShelf (cache : Cache α) (shelf : Shelf α) :
    (cache.setShelf address shelf).kept other =
      if other = address then shelf.connections else cache.kept other := by
  simp only [kept, shelf?_setShelf]
  split <;> rfl

theorem kept_modifyShelf (cache : Cache α) (change : Shelf α → Shelf α) :
    (cache.modifyShelf address change).kept other =
      if other = address then (change ((cache.shelf? address).getD {})).connections
      else cache.kept other :=
  kept_setShelf cache _

@[simp] theorem kept_recordCreated (cache : Cache α) :
    (cache.recordCreated address).kept other = cache.kept other := by
  rw [recordCreated, kept_modifyShelf]
  split
  · rename_i own
    rw [own]
    rfl
  · rfl

@[simp] theorem kept_recordFailed (cache : Cache α) :
    (cache.recordFailed address).kept other = cache.kept other := by
  rw [recordFailed, kept_modifyShelf]
  split
  · rename_i own
    rw [own]
    rfl
  · rfl

theorem kept_evict (cache : Cache α) :
    (cache.evict address).2.kept other = if other = address then [] else cache.kept other := by
  unfold evict
  cases found : cache.shelf? address with
  | none =>
    by_cases own : other = address
    · simp [kept, own, found]
    · simp [own]
  | some shelf =>
    simp only [kept, shelf?, lookup_filter_ne]
    split <;> rfl

theorem kept_evict_sublist (cache : Cache α) (other : SocketAddress) :
    ((cache.evict address).2.kept other).Sublist (cache.kept other) := by
  rw [kept_evict]
  split
  · exact List.nil_sublist _
  · exact List.Sublist.refl _

theorem kept_checkin (cache : Cache α) (checkout : Checkout α) :
    (cache.checkin isOpen now address checkout).kept other =
      if other = address ∧ isOpen checkout.connection ∧
          (cache.kept address).length < cache.limits.maxIdlePerAddress then
        checkout.returned now :: cache.kept address
      else cache.kept other := by
  unfold checkin
  cases isOpen checkout.connection with
  | false => simp
  | true =>
    simp only [if_true, kept_modifyShelf]
    by_cases own : other = address
    · subst own
      by_cases room : (cache.kept other).length < cache.limits.maxIdlePerAddress
      · have roomThere : ((cache.shelf? other).getD {}).connections.length <
            cache.limits.maxIdlePerAddress := room
        simp only [room, roomThere, and_self, if_true]
        rfl
      · have full : ¬((cache.shelf? other).getD {}).connections.length <
            cache.limits.maxIdlePerAddress := room
        simp only [room, full, and_false, if_false, if_true]
        rfl
    · simp [own]

/-- Whatever is kept after a connection has come back was kept before, or is that connection. -/
theorem mem_idleAt_checkin {checkout : Checkout α} {connection : α} {other : SocketAddress}
    (isKept : connection ∈ (cache.checkin isOpen now address checkout).idleAt other) :
    connection ∈ cache.idleAt other ∨ other = address ∧ connection = checkout.connection := by
  rw [idleAt_eq, kept_checkin] at isKept
  split at isKept
  · rename_i comesBack
    obtain ⟨rfl, _⟩ := comesBack
    cases List.mem_cons.mp isKept with
    | inl own => exact .inr ⟨rfl, own⟩
    | inr before => exact .inl before
  · exact .inl isKept

/-- What a checkout comes to: everything that was kept is thrown away, because nothing can be used
any more, or the first connection that can be used goes out, and those before it are thrown away. -/
inductive Serves (cache : Cache α) (isOpen : α → Bool) (now : Nat) (address : SocketAddress) :
    Option (Checkout α) → Cache α → Prop
  | nothing {after : Cache α}
      (useless : ∀ idle ∈ cache.kept address,
        idle.isUsable isOpen cache.limits.idleTimeout now = false)
      (remains : ∀ other, after.kept other = if other = address then [] else cache.kept other) :
      Serves cache isOpen now address none after
  | found {after : Cache α} {discarded older : List (Idle α)} {idle : Idle α}
      (isKept : cache.kept address = discarded ++ idle :: older)
      (useless : ∀ idle ∈ discarded, idle.isUsable isOpen cache.limits.idleTimeout now = false)
      (useful : idle.isUsable isOpen cache.limits.idleTimeout now = true)
      (remains : ∀ other, after.kept other = if other = address then older else cache.kept other) :
      Serves cache isOpen now address
        (some ⟨idle.connection, idle.useCount, idle.createdAt⟩) after

theorem firstUsable?_eq_none {usable : Idle α → Bool} {idles : List (Idle α)}
    (nothing : (firstUsable? usable idles).2 = none) : ∀ idle ∈ idles, usable idle = false := by
  induction idles with
  | nil => simp
  | cons idle idles ih =>
    rw [firstUsable?] at nothing
    split at nothing
    · contradiction
    · rename_i useless
      rw [List.forall_mem_cons]
      exact ⟨Bool.eq_false_iff.mpr useless, ih nothing⟩

theorem firstUsable?_eq_some {usable : Idle α → Bool} {idles older : List (Idle α)} {idle : Idle α}
    (found : (firstUsable? usable idles).2 = some (idle, older)) :
    ∃ discarded, idles = discarded ++ idle :: older ∧ (∀ idle ∈ discarded, usable idle = false) ∧
      usable idle = true := by
  induction idles with
  | nil => simp [firstUsable?] at found
  | cons first idles ih =>
    rw [firstUsable?] at found
    split at found
    · rename_i useful
      obtain ⟨rfl, rfl⟩ := Prod.mk.inj (Option.some.inj found)
      exact ⟨[], rfl, by simp, useful⟩
    · rename_i useless
      obtain ⟨discarded, rfl, useless', useful⟩ := ih found
      refine ⟨first :: discarded, rfl, ?_, useful⟩
      rw [List.forall_mem_cons]
      exact ⟨Bool.eq_false_iff.mpr useless, useless'⟩

theorem serves_checkout (cache : Cache α) (isOpen : α → Bool) (now : Nat)
    (address : SocketAddress) :
    Serves cache isOpen now address (cache.checkout isOpen now address).1
      (cache.checkout isOpen now address).2.2 := by
  unfold checkout
  cases there : cache.shelf? address with
  | none =>
    have keptNothing : cache.kept address = [] := by simp [kept, there]
    refine .nothing (by simp [keptNothing]) fun other => ?_
    by_cases own : other = address
    · simp [own, keptNothing]
    · simp [own]
  | some shelf =>
    have keptThere : cache.kept address = shelf.connections := by simp [kept, there]
    simp only
    split
    · rename_i nothing
      refine .nothing ?_ fun other => kept_setShelf cache _
      rw [keptThere]
      exact firstUsable?_eq_none nothing
    · rename_i idle older found
      obtain ⟨discarded, split, useless, useful⟩ := firstUsable?_eq_some found
      exact .found (keptThere.trans split) useless useful fun other => kept_setShelf cache _

@[simp] theorem limits_checkout (cache : Cache α) :
    (cache.checkout isOpen now address).2.2.limits = cache.limits := by
  unfold checkout
  split
  · rfl
  · simp only
    split <;> rfl

@[simp] theorem limits_checkin (cache : Cache α) (checkout : Checkout α) :
    (cache.checkin isOpen now address checkout).limits = cache.limits := by
  unfold checkin
  split <;> rfl

@[simp] theorem limits_evict (cache : Cache α) :
    (cache.evict address).2.limits = cache.limits := by
  unfold evict
  split <;> rfl

/-! ## One place for each connection -/

/-- Of the connections that are kept and those in hand, none is in two places. -/
structure Apart (cache : Cache α) (held : List α) : Prop where
  once : ∀ address, (cache.idleAt address).Nodup
  lone : ∀ {connection : α} {address other : SocketAddress}, connection ∈ cache.idleAt address →
    connection ∈ cache.idleAt other → address = other
  unheld : ∀ {connection : α} {address : SocketAddress}, connection ∈ cache.idleAt address →
    connection ∉ held
  heldOnce : held.Nodup

namespace Apart

variable {held fewer : List α} {connection : α}

theorem of_empty {limits : Limits} : Apart ({ limits } : Cache α) [] where
  once _ := .nil
  lone isKept := by simp [idleAt, shelf?] at isKept
  unheld _ := List.not_mem_nil
  heldOnce := .nil

/-- Nothing that is taken away sets connections at odds. -/
theorem of_sublist (apart : Apart cache held)
    (keptBefore : ∀ address, (after.kept address).Sublist (cache.kept address))
    (heldBefore : fewer.Sublist held) : Apart after fewer where
  once address := (apart.once address).sublist ((keptBefore address).map _)
  lone isKept isKeptThere :=
    apart.lone (((keptBefore _).map _).subset isKept) (((keptBefore _).map _).subset isKeptThere)
  unheld isKept isHeld :=
    apart.unheld (((keptBefore _).map _).subset isKept) (heldBefore.subset isHeld)
  heldOnce := apart.heldOnce.sublist heldBefore

theorem perm {reordered : List α} (apart : Apart cache held) (same : held.Perm reordered) :
    Apart cache reordered where
  once := apart.once
  lone := apart.lone
  unheld isKept isHeld := apart.unheld isKept (same.mem_iff.mpr isHeld)
  heldOnce := same.nodup_iff.mp apart.heldOnce

/-- A connection that is nowhere comes into hand. -/
theorem cons (apart : Apart cache held) (notHeld : connection ∉ held)
    (notKept : ∀ address, connection ∉ cache.idleAt address) :
    Apart cache (connection :: held) where
  once := apart.once
  lone := apart.lone
  unheld isKept isHeld := by
    cases List.mem_cons.mp isHeld with
    | inl own => exact notKept _ (own ▸ isKept)
    | inr isHeld => exact apart.unheld isKept isHeld
  heldOnce := List.nodup_cons.mpr ⟨notHeld, apart.heldOnce⟩

end Apart

theorem Serves.kept_sublist {result : Option (Checkout α)}
    (serves : Serves cache isOpen now address result after) (other : SocketAddress) :
    (after.kept other).Sublist (cache.kept other) := by
  cases serves with
  | nothing _ remains =>
    rw [remains]
    split
    · exact List.nil_sublist _
    · exact List.Sublist.refl _
  | @found _ discarded older idle isKept _ _ remains =>
    rw [remains]
    split
    · rename_i own
      rw [own, isKept]
      exact (List.sublist_cons_self idle older).trans (List.sublist_append_right ..)
    · exact List.Sublist.refl _

/-- Of what was kept for an address, nothing that stood in front of what remains is kept any
more. -/
theorem Apart.notMem_idleAt {held : List α} {front behind : List (Idle α)} {idle : Idle α}
    (apart : Apart cache held) (isKept : cache.kept address = front ++ behind)
    (remains : ∀ other, after.kept other = if other = address then behind else cache.kept other)
    (among : idle ∈ front) (other : SocketAddress) : idle.connection ∉ after.idleAt other := by
  intro isKeptAfter
  rw [idleAt_eq, remains] at isKeptAfter
  split at isKeptAfter
  · have once := apart.once address
    rw [idleAt_eq, isKept, List.map_append] at once
    exact List.disjoint_of_nodup_append once (List.mem_map_of_mem among) isKeptAfter
  · rename_i different
    have isThere : idle.connection ∈ cache.idleAt address := by
      rw [idleAt_eq, isKept]
      exact List.mem_map_of_mem (List.mem_append_left _ among)
    exact different (apart.lone isKeptAfter isThere)

theorem Serves.wasKept {checkout : Checkout α}
    (serves : Serves cache isOpen now address (some checkout) after) :
    ∃ idle ∈ cache.kept address,
      checkout = ⟨idle.connection, idle.useCount, idle.createdAt⟩ := by
  cases serves with
  | @found _ _ _ idle isKept _ _ _ => exact ⟨idle, by simp [isKept], rfl⟩

/-- The connection that goes out was kept for the address, and it is kept no longer. -/
theorem Serves.moves {checkout : Checkout α} {held : List α}
    (serves : Serves cache isOpen now address (some checkout) after) (apart : Apart cache held) :
    checkout.connection ∈ cache.idleAt address ∧
      ∀ other, checkout.connection ∉ after.idleAt other := by
  cases serves with
  | @found _ discarded older idle isKept _ _ remains =>
    constructor
    · simp [idleAt_eq, isKept]
    · have isKeptInFront : cache.kept address = (discarded ++ [idle]) ++ older := by simp [isKept]
      exact apart.notMem_idleAt isKeptInFront remains (List.mem_append_right _ (.head _))

namespace Apart

variable {held : List α}

theorem serves {result : Option (Checkout α)} (apart : Apart cache held)
    (serves : Serves cache isOpen now address result after) :
    Apart after ((result.map (·.connection)).toList ++ held) := by
  have remain : Apart after held := apart.of_sublist serves.kept_sublist (.refl _)
  cases result with
  | none => exact remain
  | some checkout =>
    obtain ⟨wasKept, notKept⟩ := serves.moves apart
    exact remain.cons (apart.unheld wasKept) notKept

theorem evict (apart : Apart cache held) (address : SocketAddress) :
    Apart (cache.evict address).2 held :=
  apart.of_sublist (kept_evict_sublist cache) (.refl _)

theorem of_kept_eq (apart : Apart cache held)
    (same : ∀ address, after.kept address = cache.kept address) : Apart after held :=
  apart.of_sublist (fun address => same address ▸ .refl _) (.refl _)

theorem checkin {checkout : Checkout α} (apart : Apart cache (checkout.connection :: held)) :
    Apart (cache.checkin isOpen now address checkout) held where
  once other := by
    rw [idleAt_eq, kept_checkin]
    split
    · rw [List.map_cons, List.nodup_cons]
      exact ⟨fun isKept => apart.unheld isKept List.mem_cons_self, apart.once address⟩
    · exact apart.once other
  lone isKept isKeptThere := by
    rcases mem_idleAt_checkin isKept with before | ⟨rfl, rfl⟩
    · rcases mem_idleAt_checkin isKeptThere with beforeThere | ⟨rfl, rfl⟩
      · exact apart.lone before beforeThere
      · exact absurd List.mem_cons_self (apart.unheld before)
    · rcases mem_idleAt_checkin isKeptThere with beforeThere | ⟨rfl, _⟩
      · exact absurd List.mem_cons_self (apart.unheld beforeThere)
      · rfl
  unheld isKept isHeld := by
    rcases mem_idleAt_checkin isKept with before | ⟨_, rfl⟩
    · exact apart.unheld before (List.mem_cons_of_mem _ isHeld)
    · exact (List.nodup_cons.mp apart.heldOnce).1 isHeld
  heldOnce := (List.nodup_cons.mp apart.heldOnce).2

end Apart

end Cache

end OneHost.Connection
