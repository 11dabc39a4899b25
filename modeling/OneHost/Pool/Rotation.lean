/-!
# Taking turns

A rotation hands out its members in turn, passing over those that are not up at the moment. The
cursor counts the turns taken; it belongs to the rotation, not to its callers, so callers that share
one share the turns as well.
-/

namespace OneHost.Pool

/-- Members that take turns, and how many turns were taken. -/
structure Rotation (α : Type) where
  members : List α
  cursor : UInt64 := 0
  deriving Inhabited

namespace Rotation

variable {α : Type}

/-- The rotation without members. -/
def empty : Rotation α := { members := [] }

/-- The members that are up. -/
def available (rotation : Rotation α) (healthy : α → Bool) : List α :=
  rotation.members.filter healthy

/-- Take a turn among some members that are seen to be up. None is taken if there are none. -/
def draw (rotation : Rotation α) (candidates : List α) : Option α × Rotation α :=
  if candidates.isEmpty then (none, rotation)
  else
    (candidates[rotation.cursor.toNat % candidates.length]?,
      { rotation with cursor := rotation.cursor + 1 })

/-- The member whose turn it is, among those that are up. -/
def next (rotation : Rotation α) (healthy : α → Bool) : Option α × Rotation α :=
  rotation.draw (rotation.available healthy)

theorem draw_fst (rotation : Rotation α) (candidates : List α) :
    (rotation.draw candidates).1 = candidates[rotation.cursor.toNat % candidates.length]? := by
  cases candidates <;> rfl

theorem cursor_draw (rotation : Rotation α) (candidates : List α) :
    (rotation.draw candidates).2.cursor =
      if candidates.isEmpty then rotation.cursor else rotation.cursor + 1 := by
  cases candidates <;> rfl

@[simp] theorem members_draw (rotation : Rotation α) (candidates : List α) :
    (rotation.draw candidates).2.members = rotation.members := by
  cases candidates <;> rfl

@[simp] theorem members_next (rotation : Rotation α) (healthy : α → Bool) :
    (rotation.next healthy).2.members = rotation.members :=
  members_draw _ _

/-- The members of some turns in a row. -/
def turns (healthy : α → Bool) : Nat → Rotation α → List (Option α) × Rotation α
  | 0, rotation => ([], rotation)
  | count + 1, rotation =>
    let (member, rotation) := rotation.next healthy
    let (members, rotation) := turns healthy count rotation
    (member :: members, rotation)

end Rotation

end OneHost.Pool
