import Mathlib.Algebra.Group.Nat.Defs
import OneHost.Pool.Rotation
import OneHost.Proofs.Pool.Rounds

/-!
# Callers that share a rotation

A call comes in two moves: the caller looks who is up, and then it takes a turn among those whom it
saw. Between the two, other callers may make any moves of theirs. While the same members are up it
does not matter who comes when: the turns are taken one after the other, each on the next number of
the cursor, and they are shared out among the members as if one caller had taken them all.
-/

namespace OneHost.Pool

variable {α : Type}

/-- A move of a caller: it looks who is up, or it takes a turn among those whom it saw. -/
inductive Move where
  | look (caller : Nat)
  | draw (caller : Nat)

/-- A turn that was taken: by whom, on which number of the cursor, and who was handed out. -/
structure Taken (α : Type) where
  caller : Nat
  number : UInt64
  member : Option α

/-- A rotation with the callers that have looked and not yet taken their turns, and with the turns
that were taken, in their order. -/
structure Sharing (α : Type) where
  rotation : Rotation α
  looked : List (Nat × List α) := []
  taken : List (Taken α) := []

namespace Sharing

/-- What a move does. A caller looks again only after it has taken its turn. -/
def move (healthy : α → Bool) (sharing : Sharing α) : Move → Sharing α
  | .look caller =>
    if (sharing.looked.lookup caller).isSome then sharing
    else
      { sharing with
        looked := (caller, sharing.rotation.available healthy) :: sharing.looked }
  | .draw caller =>
    match sharing.looked.lookup caller with
    | none => sharing
    | some candidates =>
      let (member, rotation) := sharing.rotation.draw candidates
      { rotation
        looked := sharing.looked.filter (·.1 ≠ caller)
        taken := sharing.taken ++ [⟨caller, sharing.rotation.cursor, member⟩] }

/-- What moves come to, in the order in which they are made. -/
def run (healthy : α → Bool) (sharing : Sharing α) (moves : List Move) : Sharing α :=
  moves.foldl (move healthy) sharing

/-- A call that no one comes between takes the next turn of the rotation. -/
theorem run_look_draw (healthy : α → Bool) (rotation : Rotation α) (caller : Nat) :
    run healthy { rotation } [.look caller, .draw caller] =
      { rotation := (rotation.next healthy).2
        taken := [⟨caller, rotation.cursor, (rotation.next healthy).1⟩] } := by
  simp [run, move, Rotation.next]

/-- Who was handed out, turn by turn. -/
def picks (sharing : Sharing α) : List (Option α) :=
  sharing.taken.map (·.member)

variable {healthy : α → Bool} {rotation : Rotation α} {sharing : Sharing α}

/-- The turns have gone round since the cursor stood where it stands in a rotation. -/
structure GoesRound (healthy : α → Bool) (rotation : Rotation α) (sharing : Sharing α) : Prop where
  members : sharing.rotation.members = rotation.members
  looked : ∀ entry ∈ sharing.looked, entry.2 = rotation.available healthy
  cursor : sharing.rotation.cursor.toNat = rotation.cursor.toNat + sharing.taken.length
  numbers : sharing.taken.map (·.number.toNat) =
    List.range' rotation.cursor.toNat sharing.taken.length
  picks : sharing.picks =
    circling (rotation.available healthy) rotation.cursor.toNat sharing.taken.length

theorem length_taken_le_move (healthy : α → Bool) (sharing : Sharing α) (next : Move) :
    sharing.taken.length ≤ (sharing.move healthy next).taken.length := by
  cases next with
  | look caller =>
    simp only [move]
    split <;> exact Nat.le_refl _
  | draw caller =>
    simp only [move]
    split
    · exact Nat.le_refl _
    · simp

theorem mem_of_lookup_eq_some {caller : Nat} {candidates : List α}
    (found : sharing.looked.lookup caller = some candidates) :
    (caller, candidates) ∈ sharing.looked := by
  obtain ⟨before, behind, split, _⟩ := List.lookup_eq_some_iff.mp found
  simp [split]

theorem GoesRound.move (goesRound : GoesRound healthy rotation sharing)
    (someUp : rotation.available healthy ≠ []) (next : Move)
    (bounded : rotation.cursor.toNat + (sharing.move healthy next).taken.length < 2 ^ 64) :
    GoesRound healthy rotation (sharing.move healthy next) := by
  cases next with
  | look caller =>
    simp only [Sharing.move]
    split
    · exact goesRound
    · refine { goesRound with looked := ?_ }
      rw [List.forall_mem_cons]
      refine ⟨?_, goesRound.looked⟩
      rw [Rotation.available, goesRound.members, Rotation.available]
  | draw caller =>
    cases found : sharing.looked.lookup caller with
    | none => simpa [Sharing.move, found] using goesRound
    | some candidates =>
      obtain rfl := goesRound.looked _ (mem_of_lookup_eq_some found)
      have isUp : (rotation.available healthy).isEmpty = false :=
        List.isEmpty_eq_false_iff.mpr someUp
      simp only [Sharing.move, found, Rotation.draw, isUp, Bool.false_eq_true, if_false,
        List.length_append, List.length_singleton] at bounded ⊢
      have increment : (sharing.rotation.cursor + 1).toNat = sharing.rotation.cursor.toNat + 1 := by
        rw [UInt64.toNat_add, goesRound.cursor]
        exact Nat.mod_eq_of_lt (by simpa [Nat.add_assoc] using bounded)
      constructor
      · exact goesRound.members
      · intro entry among
        exact goesRound.looked entry (List.mem_of_mem_filter among)
      · simp only [increment, goesRound.cursor, List.length_append, List.length_singleton,
          Nat.add_assoc]
      · simp only [List.map_append, goesRound.numbers, List.map_singleton, goesRound.cursor,
          List.length_append, List.length_singleton]
        rw [List.range'_1_concat]
      · have picks := goesRound.picks
        simp only [Sharing.picks] at picks
        simp only [Sharing.picks, List.map_append, picks, List.map_singleton, goesRound.cursor,
          List.length_append, List.length_singleton, circling_append]
        simp [circling]

theorem goesRound_run (someUp : rotation.available healthy ≠ []) (moves : List Move)
    (bounded : rotation.cursor.toNat +
      (run healthy { rotation } moves).taken.length < 2 ^ 64) :
    GoesRound healthy rotation (run healthy { rotation } moves) := by
  induction moves using List.reverseRecOn with
  | nil =>
    exact ⟨rfl, by simp [run], by simp [run], by simp [run], by simp [run, picks, circling]⟩
  | append_singleton moves next ih =>
    have moved : run healthy { rotation } (moves ++ [next]) =
        (run healthy { rotation } moves).move healthy next := by simp [run]
    rw [moved] at bounded ⊢
    refine (ih ?_).move someUp next bounded
    exact Nat.lt_of_le_of_lt (Nat.add_le_add_left (length_taken_le_move ..) _) bounded

namespace GoesRound

/-- Every turn falls on a member that is up. -/
theorem isUp {pick : Option α} (goesRound : GoesRound healthy rotation sharing)
    (someUp : rotation.available healthy ≠ []) (among : pick ∈ sharing.picks) :
    ∃ member ∈ rotation.members, healthy member = true ∧ pick = some member := by
  rw [goesRound.picks] at among
  obtain ⟨turn, _, rfl⟩ := List.mem_map.mp among
  have bound : (rotation.cursor.toNat + turn) % (rotation.available healthy).length <
      (rotation.available healthy).length :=
    Nat.mod_lt _ (List.length_pos_iff.mpr someUp)
  have isUp := List.mem_filter.mp (List.getElem_mem bound)
  exact ⟨_, isUp.1, isUp.2, List.getElem?_eq_getElem bound⟩

theorem stretch {first : Nat} (goesRound : GoesRound healthy rotation sharing)
    (within : first + (rotation.available healthy).length ≤ sharing.taken.length) :
    (sharing.picks.drop first).take (rotation.available healthy).length =
      ((rotation.available healthy).rotate (rotation.cursor.toNat + first)).map some := by
  rw [goesRound.picks]
  exact stretch_circling within

theorem count_bounds [DecidableEq α] (goesRound : GoesRound healthy rotation sharing)
    (someUp : rotation.available healthy ≠ []) (member : α) :
    sharing.taken.length / (rotation.available healthy).length *
          (rotation.available healthy).count member ≤ sharing.picks.count (some member) ∧
      sharing.picks.count (some member) ≤
        (sharing.taken.length + (rotation.available healthy).length - 1) /
          (rotation.available healthy).length * (rotation.available healthy).count member := by
  rw [goesRound.picks]
  exact count_circling member someUp

/-- No member gets two turns of a stretch. -/
theorem stretch_nodup {first : Nat} (goesRound : GoesRound healthy rotation sharing)
    (distinct : rotation.members.Nodup)
    (within : first + (rotation.available healthy).length ≤ sharing.taken.length) :
    ((sharing.picks.drop first).take (rotation.available healthy).length).Nodup := by
  rw [goesRound.stretch within]
  have once : (rotation.available healthy).Nodup := distinct.filter _
  exact (List.nodup_rotate.mpr once).map fun _ _ => Option.some.inj

/-- Members that are distinct differ by one turn at most. -/
theorem count_eq [DecidableEq α] {member : α} (goesRound : GoesRound healthy rotation sharing)
    (distinct : rotation.members.Nodup) (isUp : member ∈ rotation.available healthy) :
    sharing.picks.count (some member) =
        sharing.taken.length / (rotation.available healthy).length ∨
      sharing.picks.count (some member) =
        (sharing.taken.length + (rotation.available healthy).length - 1) /
          (rotation.available healthy).length := by
  have once : (rotation.available healthy).count member = 1 :=
    List.count_eq_one_of_mem (distinct.filter _) isUp
  have evenly := goesRound.count_bounds (List.ne_nil_of_mem isUp) member
  rw [once, Nat.mul_one, Nat.mul_one] at evenly
  have positive : 0 < (rotation.available healthy).length := List.length_pos_of_mem isUp
  have oneMore : (sharing.taken.length + (rotation.available healthy).length - 1) /
        (rotation.available healthy).length ≤
      sharing.taken.length / (rotation.available healthy).length + 1 :=
    calc (sharing.taken.length + (rotation.available healthy).length - 1) /
          (rotation.available healthy).length
      _ ≤ (sharing.taken.length + (rotation.available healthy).length) /
          (rotation.available healthy).length := Nat.div_le_div_right (Nat.sub_le _ _)
      _ = sharing.taken.length / (rotation.available healthy).length + 1 :=
          Nat.add_div_right _ positive
  omega

end GoesRound

/-- However callers come together, as long as the same members are up and the cursor does not come
to its end: every turn falls on a member that is up; each is taken on a number of its own, and none
is left out; as many turns in a row as there are members up fall on these in their order; and every
member gets as many turns as full rounds are made, and one more at most. A member that the rotation
has more than once gets the turns of each of its places. -/
theorem turns_are_shared_out [DecidableEq α] {moves : List Move}
    (someUp : 1 ≤ (rotation.available healthy).length)
    (bounded : rotation.cursor.toNat +
      (run healthy { rotation } moves).taken.length < 2 ^ 64) :
    let up := rotation.available healthy
    let after := run healthy { rotation } moves
    let count := after.taken.length
    (∀ pick ∈ after.picks, ∃ member ∈ rotation.members, healthy member = true ∧
        pick = some member) ∧
      after.taken.map (·.number.toNat) = List.range' rotation.cursor.toNat count ∧
      after.rotation.cursor.toNat = rotation.cursor.toNat + count ∧
      (∀ first, first + up.length ≤ count → (after.picks.drop first).take up.length =
        (up.rotate (rotation.cursor.toNat + first)).map some) ∧
      (∀ member, count / up.length * up.count member ≤ after.picks.count (some member) ∧
        after.picks.count (some member) ≤
          (count + up.length - 1) / up.length * up.count member) ∧
      (rotation.members.Nodup →
        (∀ first, first + up.length ≤ count →
          ((after.picks.drop first).take up.length).Nodup) ∧
        ∀ member ∈ up, after.picks.count (some member) = count / up.length ∨
          after.picks.count (some member) = (count + up.length - 1) / up.length) := by
  intro up after count
  have nonempty : up ≠ [] := List.ne_nil_of_length_pos someUp
  have goesRound := goesRound_run nonempty moves bounded
  exact ⟨fun pick among => goesRound.isUp nonempty among, goesRound.numbers, goesRound.cursor,
    fun first within => goesRound.stretch within,
    fun member => goesRound.count_bounds nonempty member,
    fun distinct => ⟨fun first within => goesRound.stretch_nodup distinct within,
      fun member isUp => goesRound.count_eq distinct isUp⟩⟩

/-- The second of three members is down. -/
def withoutSecond (member : Nat) : Bool :=
  member != 1

/-- Two callers look one after the other, and the one that looked last takes its turn first. -/
def crossing : List Move :=
  [.look 0, .look 1, .draw 1, .draw 0, .look 1, .draw 1]

/-- The three turns of two callers go to the two members that are up, one of them twice. -/
theorem turns_are_shared_out_crossing :
    (run withoutSecond { rotation := { members := [0, 1, 2], cursor := 5 } } crossing).picks =
        [some 2, some 0, some 2] ∧
      ((run withoutSecond { rotation := { members := [0, 1, 2], cursor := 5 } }
          crossing).picks.count (some 2) = 3 / 2 ∨
        (run withoutSecond { rotation := { members := [0, 1, 2], cursor := 5 } }
          crossing).picks.count (some 2) = (3 + 2 - 1) / 2) := by
  have someUp : 1 ≤ (Rotation.available { members := [0, 1, 2], cursor := 5 }
      withoutSecond).length := by decide
  have bounded : (5 : UInt64).toNat +
      (run withoutSecond { rotation := { members := [0, 1, 2], cursor := 5 } }
        crossing).taken.length < 2 ^ 64 := by decide
  obtain ⟨_, _, _, _, _, distinct⟩ := turns_are_shared_out someUp bounded
  exact ⟨by decide, (distinct (by decide)).2 2 (by decide)⟩

end Sharing

end OneHost.Pool
