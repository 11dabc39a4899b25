import Mathlib.Data.List.Count
import Mathlib.Data.List.Rotate

/-!
# Turns in a row

As long as the same members are up, the turns that are taken on a rotation go round and round: turn
by turn the next member, wherever the cursor stands at the beginning. A stretch of as many turns as
there are members falls on each of them once, so any number of turns is shared out as evenly as it
can be.
-/

namespace OneHost.Pool

variable {α : Type}

/-- Some turns in a row on a circle of members, from where a cursor stands. -/
def circling (members : List α) (cursor count : Nat) : List (Option α) :=
  (List.range count).map fun turn => members[(cursor + turn) % members.length]?

variable {members : List α} {cursor count first : Nat}

theorem length_circling : (circling members cursor count).length = count := by
  simp [circling]

theorem getElem?_circling {turn : Nat} (taken : turn < count) :
    (circling members cursor count)[turn]? =
      some members[(cursor + turn) % members.length]? := by
  rw [circling, List.getElem?_map, List.getElem?_range taken, Option.map_some]

theorem circling_append (rest : Nat) :
    circling members cursor (count + rest) =
      circling members cursor count ++ circling members (cursor + count) rest := by
  simp [circling, List.range_add, List.map_map, Function.comp_def, Nat.add_assoc]

theorem circling_one : circling members cursor 1 = [members[cursor % members.length]?] := by
  simp [circling]

theorem prefix_circling {more : Nat} (fewer : count ≤ more) :
    circling members cursor count <+: circling members cursor more := by
  rcases Nat.exists_eq_add_of_le fewer with ⟨rest, rfl⟩
  rw [circling_append]
  exact List.prefix_append _ _

theorem mem_of_mem_circling {member : α} (picked : some member ∈ circling members cursor count) :
    member ∈ members := by
  rcases List.mem_map.mp picked with ⟨turn, _, atTurn⟩
  exact List.mem_of_getElem? atTurn

theorem none_notMem_circling (nonempty : members ≠ []) :
    none ∉ circling members cursor count := by
  intro missed
  rcases List.mem_map.mp missed with ⟨turn, _, atTurn⟩
  have beyond := List.getElem?_eq_none_iff.mp atTurn
  have within := Nat.mod_lt (cursor + turn) (List.length_pos_iff.mpr nonempty)
  exact Nat.not_le.mpr within beyond

/-- As many turns as there are members fall on each of them once, in the order of the circle. -/
theorem circling_length :
    circling members cursor members.length = (members.rotate cursor).map some := by
  apply List.ext_getElem?
  intro turn
  by_cases within : turn < members.length
  · rw [getElem?_circling within, List.getElem?_map, List.getElem?_rotate within,
      Nat.add_comm cursor turn]
    have bound : (turn + cursor) % members.length < members.length :=
      Nat.mod_lt _ (Nat.zero_lt_of_lt within)
    rw [List.getElem?_eq_getElem bound, Option.map_some]
  · rw [List.getElem?_eq_none (by rw [length_circling]; exact Nat.not_lt.mp within),
      List.getElem?_eq_none (by simpa using within)]

/-- On fewer turns no member comes twice. -/
theorem nodup_circling (apart : members.Nodup) (within : count ≤ members.length) :
    (circling members cursor count).Nodup := by
  have round : (circling members cursor members.length).Nodup := by
    rw [circling_length]
    exact (List.nodup_rotate.mpr apart).map fun _ _ => Option.some.inj
  exact (prefix_circling within).sublist.nodup round

/-- A stretch of as many turns as there are members. -/
theorem stretch_circling (within : first + members.length ≤ count) :
    ((circling members cursor count).drop first).take members.length =
      (members.rotate (cursor + first)).map some := by
  obtain ⟨rest, rfl⟩ := Nat.exists_eq_add_of_le within
  rw [Nat.add_assoc, circling_append, circling_append,
    List.drop_left' length_circling, List.take_left' length_circling, circling_length]

/-- Members get as many turns as full rounds are made, and one more if another round is begun; a
member that stands in the circle more than once gets them for each place. -/
theorem count_circling [DecidableEq α] (member : α) (nonempty : members ≠ []) :
    count / members.length * members.count member ≤
        (circling members cursor count).count (some member) ∧
      (circling members cursor count).count (some member) ≤
        (count + members.length - 1) / members.length * members.count member := by
  have positive : 0 < members.length := List.length_pos_iff.mpr nonempty
  have round (cursor : Nat) :
      (circling members cursor members.length).count (some member) = members.count member := by
    rw [circling_length, List.count_map_of_injective _ _ (fun _ _ => Option.some.inj),
      (members.rotate_perm cursor).count_eq]
  induction count using Nat.strong_induction_on generalizing cursor with
  | _ count ih =>
    cases Nat.lt_or_ge count members.length with
    | inl less =>
      rw [Nat.div_eq_of_lt less, Nat.zero_mul]
      refine ⟨Nat.zero_le _, ?_⟩
      cases count with
      | zero => simp [circling]
      | succ count =>
        have begun : (count + 1 + members.length - 1) / members.length = 1 :=
          Nat.div_eq_of_lt_le (by omega) (by omega)
        rw [begun, Nat.one_mul, ← round cursor]
        exact (prefix_circling (Nat.le_of_lt less)).sublist.count_le _
    | inr more =>
      obtain ⟨rest, rfl⟩ := Nat.exists_eq_add_of_le more
      obtain ⟨atLeast, atMost⟩ := @ih rest (by omega) (cursor + members.length)
      have fullRounds : (members.length + rest) / members.length = rest / members.length + 1 :=
        Nat.add_div_left rest positive
      have begunRounds : (members.length + rest + members.length - 1) / members.length =
          (rest + members.length - 1) / members.length + 1 := by
        rw [Nat.add_assoc, Nat.add_sub_assoc (by omega), Nat.add_div_left _ positive]
      rw [circling_append, List.count_append, round, fullRounds, begunRounds, Nat.succ_mul,
        Nat.succ_mul]
      omega

end OneHost.Pool
