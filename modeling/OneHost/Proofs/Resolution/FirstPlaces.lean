import Mathlib.Data.List.Basic
import OneHost.Proofs.Pool.Publishing

/-!
# The first places of addresses

A source may name an address more than once. What is answered is each of its addresses at its first
place, and only one list is so; to take the first places once more changes nothing. A fixed resolver
holds such a list from the start and after every replacement, so that no pool that asks it is ever
given an address twice.
-/

namespace OneHost.Resolution

variable {seen addresses given other : List Ip} {ip first second : Ip}

/-! ## Who comes first -/

/-- The first place of one address lies before the first place of another. -/
def Precedes (addresses : List Ip) (first second : Ip) : Prop :=
  addresses.idxOf first < addresses.idxOf second

theorem Precedes.ne (precedes : Precedes addresses first second) : first ≠ second :=
  ne_of_apply_ne addresses.idxOf (Nat.ne_of_lt precedes)

theorem Precedes.not_symm (precedes : Precedes addresses first second) :
    ¬Precedes addresses second first :=
  Nat.lt_asymm precedes

/-- The head of a list comes before all others. -/
theorem precedes_head (differs : second ≠ ip) : Precedes (ip :: addresses) ip second := by
  rw [Precedes, List.idxOf_cons_self, List.idxOf_cons_ne _ differs.symm]
  exact Nat.succ_pos _

/-- An address in front moves all others alike. -/
theorem Precedes.cons (precedes : Precedes addresses first second) (differsFirst : first ≠ ip)
    (differsSecond : second ≠ ip) : Precedes (ip :: addresses) first second := by
  rw [Precedes, List.idxOf_cons_ne _ differsFirst.symm, List.idxOf_cons_ne _ differsSecond.symm]
  exact Nat.succ_lt_succ precedes

/-- A list without repetitions is in its own order. -/
theorem pairwise_precedes_of_nodup (once : given.Nodup) : given.Pairwise (Precedes given) := by
  rw [List.pairwise_iff_getElem]
  intro place later within laterWithin before
  rw [Precedes, once.idxOf_getElem, once.idxOf_getElem]
  exact before

/-- A list in the order of another one puts any two of its addresses as the other does. -/
theorem precedes_iff_of_pairwise (ordered : given.Pairwise (Precedes addresses))
    (isFirst : first ∈ given) (isSecond : second ∈ given) :
    Precedes given first second ↔ Precedes addresses first second := by
  have forward {earlier later : Ip} (isEarlier : earlier ∈ given) (isLater : later ∈ given)
      (before : Precedes given earlier later) : Precedes addresses earlier later := by
    have placed := List.pairwise_iff_getElem.mp ordered _ _ (List.idxOf_lt_length_iff.mpr isEarlier)
      (List.idxOf_lt_length_iff.mpr isLater) before
    rwa [List.getElem_idxOf, List.getElem_idxOf] at placed
  constructor
  · exact forward isFirst isSecond
  · intro precedes
    rcases Nat.lt_trichotomy (given.idxOf first) (given.idxOf second) with before | same | after
    · exact before
    · exact absurd ((List.idxOf_inj isFirst).mp same) precedes.ne
    · exact absurd (forward isSecond isFirst after) precedes.not_symm

/-! ## Each address once -/

/-- A list gives each of some addresses once, and any two of them in the order of their first
places. -/
structure GivesOnce (addresses given : List Ip) : Prop where
  nodup : given.Nodup
  mem_iff : ∀ ip, ip ∈ given ↔ ip ∈ addresses
  ordered : ∀ first ∈ addresses, ∀ second ∈ addresses,
    Precedes given first second ↔ Precedes addresses first second

namespace GivesOnce

theorem pairwise (gives : GivesOnce addresses given) : given.Pairwise (Precedes addresses) := by
  apply (pairwise_precedes_of_nodup gives.nodup).imp_of_mem
  intro first second isFirst isSecond before
  have named (ip : Ip) (isGiven : ip ∈ given) : ip ∈ addresses := (gives.mem_iff ip).mp isGiven
  exact (gives.ordered first (named first isFirst) second (named second isSecond)).mp before

theorem of_pairwise (mem_iff : ∀ ip, ip ∈ given ↔ ip ∈ addresses)
    (ordered : given.Pairwise (Precedes addresses)) : GivesOnce addresses given where
  nodup := ordered.imp Precedes.ne
  mem_iff := mem_iff
  ordered first isFirst second isSecond :=
    precedes_iff_of_pairwise ordered ((mem_iff first).mpr isFirst) ((mem_iff second).mpr isSecond)

/-- A list without repetitions gives its own addresses so. -/
theorem refl (once : given.Nodup) : GivesOnce given given :=
  of_pairwise (fun _ => .rfl) (pairwise_precedes_of_nodup once)

/-- The addresses and their order leave no choice. -/
theorem unique (gives : GivesOnce addresses given) (alsoGives : GivesOnce addresses other) :
    given = other := by
  have sameAddresses : given.Perm other :=
    (List.perm_ext_iff_of_nodup gives.nodup alsoGives.nodup).mpr fun ip =>
      (gives.mem_iff ip).trans (alsoGives.mem_iff ip).symm
  apply sameAddresses.eq_of_pairwise _ gives.pairwise alsoGives.pairwise
  intro first second _ _ before after
  exact absurd after before.not_symm

end GivesOnce

/-! ## Passing over what has been seen -/

theorem distinctFrom_cons_of_mem (isSeen : ip ∈ seen) :
    distinctFrom seen (ip :: addresses) = distinctFrom seen addresses := by
  rw [distinctFrom, if_pos (List.contains_iff_mem.mpr isSeen)]

theorem distinctFrom_cons_of_notMem (isNew : ip ∉ seen) :
    distinctFrom seen (ip :: addresses) = ip :: distinctFrom (ip :: seen) addresses := by
  rw [distinctFrom, if_neg (mt List.contains_iff_mem.mp isNew)]

/-- Nothing is passed over but what has been seen. -/
theorem mem_distinctFrom : ip ∈ distinctFrom seen addresses ↔ ip ∈ addresses ∧ ip ∉ seen := by
  induction addresses generalizing seen with
  | nil => simp [distinctFrom]
  | cons head rest ih =>
    by_cases isHead : ip = head
    · subst isHead
      by_cases isSeen : ip ∈ seen
      · simp [distinctFrom_cons_of_mem isSeen, ih, isSeen]
      · simp [distinctFrom_cons_of_notMem isSeen, isSeen]
    · by_cases isSeen : head ∈ seen
      · simp [distinctFrom_cons_of_mem isSeen, ih, isHead]
      · simp [distinctFrom_cons_of_notMem isSeen, ih, isHead]

theorem ne_of_mem_distinctFrom (isSeen : second ∈ seen)
    (isLeft : first ∈ distinctFrom seen addresses) : first ≠ second := by
  rintro rfl
  exact (mem_distinctFrom.mp isLeft).2 isSeen

/-- What is left stands in the order of first places, whatever had been seen before. -/
theorem pairwise_distinctFrom : (distinctFrom seen addresses).Pairwise (Precedes addresses) := by
  induction addresses generalizing seen with
  | nil => exact .nil
  | cons head rest ih =>
    -- Once the head has been seen, it is not met again, and the places of all others move by one.
    have beyond {seen : List Ip} (isSeen : head ∈ seen) :
        (distinctFrom seen rest).Pairwise (Precedes (head :: rest)) := by
      apply ih.imp_of_mem
      intro first second isFirst isSecond precedes
      exact precedes.cons (ne_of_mem_distinctFrom isSeen isFirst)
        (ne_of_mem_distinctFrom isSeen isSecond)
    by_cases isSeen : head ∈ seen
    · rw [distinctFrom_cons_of_mem isSeen]
      exact beyond isSeen
    · rw [distinctFrom_cons_of_notMem isSeen, List.pairwise_cons]
      constructor
      · intro later isLeft
        exact precedes_head (ne_of_mem_distinctFrom List.mem_cons_self isLeft)
      · exact beyond List.mem_cons_self

theorem givesOnce_distinct (addresses : List Ip) : GivesOnce addresses (distinct addresses) :=
  .of_pairwise (fun _ => by simp [distinct, mem_distinctFrom]) pairwise_distinctFrom

example :
    distinct [.v4 ⟨10, 0, 0, 2⟩, .v4 ⟨10, 0, 0, 1⟩, .v4 ⟨10, 0, 0, 2⟩, .v4 ⟨10, 0, 0, 3⟩] =
      [.v4 ⟨10, 0, 0, 2⟩, .v4 ⟨10, 0, 0, 1⟩, .v4 ⟨10, 0, 0, 3⟩] := by decide

theorem distinct_of_nodup (once : given.Nodup) : distinct given = given :=
  (givesOnce_distinct given).unique (.refl once)

/-! ## Resolvers with a fixed answer -/

/-- Of all that a resolver has been given, the last addresses are what it holds. -/
theorem Fixed.foldl_set (addresses : List Ip) (later : List (List Ip)) :
    later.foldl Fixed.set (.ofList addresses) = .ofList (later.getLastD addresses) := by
  induction later generalizing addresses with
  | nil => rfl
  | cons next later ih =>
    calc (next :: later).foldl Fixed.set (.ofList addresses)
      _ = later.foldl Fixed.set (.ofList next) := rfl
      _ = .ofList (later.getLastD next) := ih next
      _ = .ofList ((next :: later).getLastD addresses) := by rw [List.getLastD_cons]

/-- The distinct addresses of a list are the one list that gives each of them once and in the order
of first places, and they have no others. A fixed resolver answers every name with the distinct ones
of the addresses that it was given last, however often its answer was replaced, and a pool can rely
on such an answer to give no address twice. -/
theorem answers_give_first_places :
    (∀ addresses given, GivesOnce addresses given ↔ given = distinct addresses) ∧
    (∀ addresses, distinct (distinct addresses) = distinct addresses) ∧
    ∀ (addresses : List Ip) (later : List (List Ip)) (hostname : String) (id : Nat),
      let answer := (later.foldl Fixed.set (.ofList addresses)).resolve hostname
      answer = .ok (distinct (later.getLastD addresses)) ∧
        Pool.Input.Distinct (.answered id answer) := by
  refine ⟨?_, ?_, ?_⟩
  · intro addresses given
    constructor
    · intro gives
      exact gives.unique (givesOnce_distinct addresses)
    · rintro rfl
      exact givesOnce_distinct addresses
  · intro addresses
    exact distinct_of_nodup (givesOnce_distinct addresses).nodup
  · intro addresses later hostname id answer
    have answered : answer = .ok (distinct (later.getLastD addresses)) :=
      congrArg (Fixed.resolve · hostname) (Fixed.foldl_set addresses later)
    refine ⟨answered, ?_⟩
    rw [answered]
    exact (givesOnce_distinct (later.getLastD addresses)).nodup

end OneHost.Resolution
