/-!
# Cutting a text at a separator

`split` cuts at every occurrence and so yields at least one piece; `splitOnce?` cuts at the first
one only. Both lose nothing: joining the pieces again with the separator gives the text back.
-/

namespace OneHost.Text

variable {α : Type} [DecidableEq α]

/-- The pieces between the separators. There is one piece more than there are separators. -/
def split (separator : α) : List α → List (List α)
  | [] => [[]]
  | c :: rest =>
    if c = separator then [] :: split separator rest
    else
      match split separator rest with
      | [] => [[c]]
      | piece :: pieces => (c :: piece) :: pieces

/-- The text before the first separator and the text after it. -/
def splitOnce? (separator : α) : List α → Option (List α × List α)
  | [] => none
  | c :: rest =>
    if c = separator then some ([], rest)
    else (splitOnce? separator rest).map fun (before, after) => (c :: before, after)

/-- The text before the last separator and the text after it. -/
def splitLast? (separator : α) (text : List α) : Option (List α × List α) :=
  (splitOnce? separator text.reverse).map fun (after, before) => (before.reverse, after.reverse)

/-- The pieces, with the separator between each two of them. -/
def join (separator : α) : List (List α) → List α
  | [] => []
  | [piece] => piece
  | piece :: pieces => piece ++ separator :: join separator pieces

theorem split_ne_nil (separator : α) (text : List α) : split separator text ≠ [] := by
  cases text with
  | nil => simp [split]
  | cons c rest =>
    by_cases equal : c = separator
    · simp [split, equal]
    · simp only [split, equal, if_false]
      split <;> simp

theorem length_split (separator : α) (text : List α) :
    (split separator text).length = text.count separator + 1 := by
  induction text with
  | nil => simp [split]
  | cons c rest ih =>
    by_cases equal : c = separator
    · simp [split, equal, ih]
    · have nonempty := split_ne_nil separator rest
      simp only [split, equal, if_false]
      split
      · contradiction
      · rename_i piece pieces found
        rw [found] at ih
        simpa [List.count_cons, equal] using ih

@[simp] theorem join_split (separator : α) (text : List α) :
    join separator (split separator text) = text := by
  induction text with
  | nil => rfl
  | cons c rest ih =>
    have nonempty := split_ne_nil separator rest
    by_cases equal : c = separator
    · cases found : split separator rest with
      | nil => contradiction
      | cons piece pieces =>
        rw [found] at ih
        simp [split, equal, found, join, ih]
    · simp only [split, equal, if_false]
      split
      · contradiction
      · rename_i piece pieces found
        rw [found] at ih
        cases pieces with
        | nil => simpa [join] using ih
        | cons next pieces => simpa [join] using ih

/-! ## The first and the last separator -/

theorem splitOnce?_eq_none_iff {separator : α} {text : List α} :
    splitOnce? separator text = none ↔ separator ∉ text := by
  induction text with
  | nil => simp [splitOnce?]
  | cons c rest ih =>
    by_cases equal : c = separator
    · simp [splitOnce?, equal]
    · simp [splitOnce?, equal, ih, Ne.symm equal]

/-- The cut at the first separator is the only one with no separator in front of it. -/
theorem splitOnce?_eq_some_iff {separator : α} {text before after : List α} :
    splitOnce? separator text = some (before, after) ↔
      text = before ++ separator :: after ∧ separator ∉ before := by
  induction text generalizing before with
  | nil => simp [splitOnce?]
  | cons c rest ih =>
    by_cases equal : c = separator
    · subst c
      simp only [splitOnce?, if_true, Option.some.injEq, Prod.mk.injEq]
      constructor
      · rintro ⟨rfl, rfl⟩
        simp
      · rintro ⟨textEq, absent⟩
        cases before with
        | nil => simpa using textEq
        | cons head before =>
          simp only [List.cons_append, List.cons.injEq] at textEq
          exact absurd (textEq.1 ▸ List.mem_cons_self) absent
    · simp only [splitOnce?, equal, if_false, Option.map_eq_some_iff, Prod.mk.injEq]
      constructor
      · rintro ⟨⟨front, back⟩, found, rfl, rfl⟩
        obtain ⟨rfl, absent⟩ := ih.mp found
        exact ⟨rfl, by simp [absent, Ne.symm equal]⟩
      · rintro ⟨textEq, absent⟩
        cases before with
        | nil => exact absurd (List.cons.inj textEq).1 equal
        | cons head before =>
          obtain ⟨rfl, restEq⟩ := List.cons.inj textEq
          have tailAbsent : separator ∉ before := fun member =>
            absent (List.mem_cons_of_mem _ member)
          exact ⟨(before, after), ih.mpr ⟨restEq, tailAbsent⟩, rfl, rfl⟩

theorem splitLast?_eq_none_iff {separator : α} {text : List α} :
    splitLast? separator text = none ↔ separator ∉ text := by
  simp [splitLast?, splitOnce?_eq_none_iff]

/-- The cut at the last separator is the only one with no separator behind it. -/
theorem splitLast?_eq_some_iff {separator : α} {text before after : List α} :
    splitLast? separator text = some (before, after) ↔
      text = before ++ separator :: after ∧ separator ∉ after := by
  simp only [splitLast?, Option.map_eq_some_iff, Prod.mk.injEq]
  constructor
  · rintro ⟨⟨back, front⟩, found, rfl, rfl⟩
    obtain ⟨reversed, absent⟩ := splitOnce?_eq_some_iff.mp found
    refine ⟨?_, by simpa using absent⟩
    rw [← List.reverse_reverse text, reversed]
    simp
  · rintro ⟨rfl, absent⟩
    refine ⟨(after.reverse, before.reverse), ?_, by simp, by simp⟩
    exact splitOnce?_eq_some_iff.mpr ⟨by simp, by simpa using absent⟩

/-! ## The pieces -/

theorem split_of_not_mem {separator : α} {text : List α} (absent : separator ∉ text) :
    split separator text = [text] := by
  induction text with
  | nil => rfl
  | cons c rest ih =>
    have different : c ≠ separator := fun equal => absent (equal ▸ List.mem_cons_self)
    have restAbsent : separator ∉ rest := fun member => absent (List.mem_cons_of_mem c member)
    simp [split, different, ih restAbsent]

/-- Cutting in two at a separator first does not change the pieces. -/
theorem split_append_cons (separator : α) (before after : List α) :
    split separator (before ++ separator :: after) =
      split separator before ++ split separator after := by
  induction before with
  | nil => simp [split]
  | cons c rest ih =>
    by_cases equal : c = separator
    · simp [split, equal, ih]
    · have nonempty := split_ne_nil separator rest
      simp only [List.cons_append, split, equal, if_false, ih]
      cases found : split separator rest with
      | nil => contradiction
      | cons piece pieces => rfl

theorem mem_of_mem_split {separator c : α} {text piece : List α}
    (member : piece ∈ split separator text) (inPiece : c ∈ piece) : c ∈ text := by
  induction text generalizing piece with
  | nil => simp_all [split]
  | cons head rest ih =>
    by_cases equal : head = separator
    · simp only [split, equal, if_true, List.mem_cons] at member
      rcases member with rfl | member
      · simp at inPiece
      · exact List.mem_cons_of_mem head (ih member inPiece)
    · have nonempty := split_ne_nil separator rest
      simp only [split, equal, if_false] at member
      cases found : split separator rest with
      | nil => contradiction
      | cons first pieces =>
        simp only [found, List.mem_cons] at member
        rcases member with rfl | member
        · rcases List.mem_cons.mp inPiece with rfl | inFirst
          · exact List.mem_cons_self
          · exact List.mem_cons_of_mem head (ih (found ▸ List.mem_cons_self) inFirst)
        · exact List.mem_cons_of_mem head (ih (found ▸ List.mem_cons_of_mem first member) inPiece)

/-- Every character but the separators stands in one of the pieces. -/
theorem exists_piece_of_mem {separator c : α} {text : List α} (member : c ∈ text)
    (different : c ≠ separator) : ∃ piece ∈ split separator text, c ∈ piece := by
  induction text with
  | nil => contradiction
  | cons head rest ih =>
    by_cases equal : head = separator
    · obtain ⟨piece, isPiece, inPiece⟩ :=
        ih ((List.mem_cons.mp member).resolve_left fun own => different (own.trans equal))
      exact ⟨piece, by simp [split, equal, isPiece], inPiece⟩
    · have nonempty := split_ne_nil separator rest
      simp only [split, equal, if_false]
      cases found : split separator rest with
      | nil => contradiction
      | cons first pieces =>
        rw [found] at ih
        cases List.mem_cons.mp member with
        | inl own => exact ⟨head :: first, List.mem_cons_self, own ▸ List.mem_cons_self⟩
        | inr inRest =>
          obtain ⟨piece, isPiece, inPiece⟩ := ih inRest
          cases List.mem_cons.mp isPiece with
          | inl isFirst =>
            exact ⟨head :: first, List.mem_cons_self, List.mem_cons_of_mem head (isFirst ▸ inPiece)⟩
          | inr later => exact ⟨piece, List.mem_cons_of_mem _ later, inPiece⟩

theorem notMem_of_mem_split {separator : α} {text piece : List α}
    (member : piece ∈ split separator text) : separator ∉ piece := by
  induction text generalizing piece with
  | nil => simp_all [split]
  | cons head rest ih =>
    by_cases equal : head = separator
    · simp only [split, equal, if_true, List.mem_cons] at member
      rcases member with rfl | member
      · exact List.not_mem_nil
      · exact ih member
    · have nonempty := split_ne_nil separator rest
      simp only [split, equal, if_false] at member
      cases found : split separator rest with
      | nil => contradiction
      | cons first pieces =>
        simp only [found, List.mem_cons] at member
        rcases member with rfl | member
        · have absent : separator ∉ first := ih (found ▸ List.mem_cons_self)
          simp [absent, Ne.symm equal]
        · exact ih (found ▸ List.mem_cons_of_mem first member)

/-- Joined pieces are told apart again if none of them has a separator. -/
theorem split_join {separator : α} {pieces : List (List α)} (nonempty : pieces ≠ [])
    (absent : ∀ piece ∈ pieces, separator ∉ piece) :
    split separator (join separator pieces) = pieces := by
  induction pieces with
  | nil => contradiction
  | cons piece rest ih =>
    have headAbsent := absent piece List.mem_cons_self
    cases rest with
    | nil => exact split_of_not_mem headAbsent
    | cons next rest =>
      rw [join, split_append_cons, split_of_not_mem headAbsent,
        ih (List.cons_ne_nil next rest) fun other member =>
          absent other (List.mem_cons_of_mem piece member)]
      · rfl
      · exact List.cons_ne_nil next rest

/-- A change of characters that neither makes nor removes separators changes each piece. -/
theorem split_map {separator : α} {change : α → α}
    (faithful : ∀ c, change c = separator ↔ c = separator) (text : List α) :
    split separator (text.map change) = (split separator text).map (List.map change) := by
  induction text with
  | nil => rfl
  | cons c rest ih =>
    by_cases equal : c = separator
    · simp [split, equal, (faithful separator).mpr rfl, ih]
    · have changed : change c ≠ separator := fun assumed => equal ((faithful c).mp assumed)
      simp only [List.map_cons, split, equal, changed, if_false, ih]
      cases split separator rest with
      | nil => rfl
      | cons piece pieces => rfl

/-- The last piece is what follows the last separator. -/
theorem getLast?_split_append_cons {separator : α} {before after : List α}
    (absent : separator ∉ after) :
    (split separator (before ++ separator :: after)).getLast? = some after := by
  rw [split_append_cons, split_of_not_mem absent]
  simp

end OneHost.Text
