import Mathlib.Data.List.Basic
import OneHost.Proofs.Text.Lettering
import OneHost.Text.Punycode

/-!
# What decoding adds to a text

An encoded text has a literal part and numbers. Each number inserts one character beyond ASCII, and
nothing else is changed: the literal part is what is left of the decoded text once those characters
are taken out. A text without numbers decodes to its literal part.
-/

namespace OneHost.Text.Punycode

variable {state : State} {begun : Option Pending} {text literal numbers decoded : List Char}

/-- The ASCII characters of a text. -/
def asciiPart (text : List Char) : List Char :=
  text.filter (·.toNat < 0x80)

theorem asciiPart_eq_self (isAscii : IsAscii text) : asciiPart text = text := by
  apply List.filter_eq_self.mpr
  intro c member
  exact decide_eq_true (isAscii c member)

theorem count_asciiPart {mark : Char} (isAscii : mark.toNat < 0x80) (text : List Char) :
    (asciiPart text).count mark = text.count mark :=
  List.count_filter (decide_eq_true isAscii)

/-- A character beyond ASCII that is inserted does not show among the ASCII characters. -/
theorem asciiPart_insertIdx {c : Char} (foreign : 0x80 ≤ c.toNat) (place : Nat) :
    asciiPart (text.insertIdx place c) = asciiPart text := by
  have dropped : decide (c.toNat < 0x80) = false := decide_eq_false (Nat.not_lt.mpr foreign)
  induction text generalizing place with
  | nil => cases place <;> simp [asciiPart, dropped]
  | cons head rest ih =>
    cases place with
    | zero => simp [asciiPart, dropped]
    | succ place =>
      simp only [asciiPart, List.insertIdx_succ_cons, List.filter_cons] at ih ⊢
      rw [ih]

/-! ## Numbers -/

theorem isAlphanum_of_digit? {c : Char} {value : Nat} (isDigit : digit? c = some value) :
    c.isAlphanum = true := by
  unfold digit? at isDigit
  apply Bool.or_eq_true_iff.mpr
  split at isDigit
  · rename_i lower
    exact .inl (Bool.or_eq_true_iff.mpr (.inr lower))
  · split at isDigit
    · rename_i upper
      exact .inl (Bool.or_eq_true_iff.mpr (.inl upper))
    · split at isDigit
      · rename_i digit
        exact .inr digit
      · contradiction

/-- A finished number inserts one character. Code points never go down. -/
theorem State.insert?_eq_some {next : State} {index : Nat}
    (inserted : state.insert? index = some next) :
    ∃ place c, place ≤ state.output.length ∧ state.code ≤ next.code ∧ c.toNat = next.code ∧
      next.output = state.output.insertIdx place c := by
  simp only [State.insert?] at inserted
  split at inserted
  · split at inserted
    · rename_i valid
      cases inserted
      exact ⟨_, _, Nat.le_of_lt_succ (Nat.mod_lt _ (Nat.succ_pos _)), Nat.le_add_right _ _,
        toNat_ofNat valid, rfl⟩
    · contradiction
  · contradiction

/-- The numbers go on with a digit, which may finish one of them. -/
theorem decodeNumbers_cons {c : Char} {rest : List Char}
    (decodes : decodeNumbers state begun (c :: rest) = some decoded) :
    c.isAlphanum = true ∧
      ((∃ index next, state.insert? index = some next ∧
          decodeNumbers next none rest = some decoded) ∨
        ∃ pending, decodeNumbers state (some pending) rest = some decoded) := by
  simp only [decodeNumbers] at decodes
  split at decodes
  · contradiction
  · rename_i value isDigit
    refine ⟨isAlphanum_of_digit? isDigit, ?_⟩
    split at decodes
    · split at decodes
      · split at decodes
        · contradiction
        · rename_i next inserted
          exact .inl ⟨_, next, inserted, decodes⟩
      · split at decodes
        · exact .inr ⟨_, decodes⟩
        · contradiction
    · contradiction

theorem isAlphanum_of_decodeNumbers (decodes : decodeNumbers state begun text = some decoded) :
    ∀ c ∈ text, c.isAlphanum = true := by
  induction text generalizing state begun with
  | nil =>
    intro c member
    contradiction
  | cons head rest ih =>
    obtain ⟨isDigit, goesOn⟩ := decodeNumbers_cons decodes
    intro c member
    cases List.mem_cons.mp member with
    | inl own => exact own ▸ isDigit
    | inr member =>
      rcases goesOn with ⟨_, _, _, decodes⟩ | ⟨_, decodes⟩
      · exact ih decodes c member
      · exact ih decodes c member

/-- The numbers insert characters beyond ASCII only. -/
theorem asciiPart_of_decodeNumbers (code : 0x80 ≤ state.code)
    (decodes : decodeNumbers state begun text = some decoded) :
    asciiPart decoded = asciiPart state.output := by
  induction text generalizing state begun with
  | nil =>
    cases begun with
    | none =>
      cases decodes
      rfl
    | some _ => contradiction
  | cons head rest ih =>
    rcases (decodeNumbers_cons decodes).2 with ⟨_, next, inserted, decodes⟩ | ⟨_, decodes⟩
    · obtain ⟨place, c, _, upwards, own, output⟩ := State.insert?_eq_some inserted
      rw [ih (Nat.le_trans code upwards) decodes, output,
        asciiPart_insertIdx (own ▸ Nat.le_trans code upwards)]
    · exact ih code decodes

/-- Each number makes the text longer. -/
theorem length_of_decodeNumbers (decodes : decodeNumbers state begun text = some decoded) :
    state.output.length ≤ decoded.length ∧
      (text ≠ [] → state.output.length < decoded.length) := by
  induction text generalizing state begun with
  | nil =>
    cases begun with
    | none =>
      cases decodes
      exact ⟨Nat.le_refl _, fun occupied => absurd rfl occupied⟩
    | some _ => contradiction
  | cons head rest ih =>
    suffices longer : state.output.length < decoded.length from
      ⟨Nat.le_of_lt longer, fun _ => longer⟩
    rcases (decodeNumbers_cons decodes).2 with ⟨_, next, inserted, decodes⟩ | ⟨pending, decodes⟩
    · obtain ⟨place, c, within, _, _, output⟩ := State.insert?_eq_some inserted
      have grown : next.output.length = state.output.length + 1 := by
        rw [output, List.length_insertIdx, if_pos within]
      have further := (ih decodes).1
      omega
    · -- A number that has begun needs more digits.
      cases rest with
      | nil => contradiction
      | cons next rest => exact (ih decodes).2 (List.cons_ne_nil next rest)

/-! ## Texts -/

/-- How an encoded text is made up. -/
inductive Parts : List Char → List Char → List Char → Prop
  | literal {literal numbers : List Char} (occupied : literal ≠ []) (last : '-' ∉ numbers) :
      Parts (literal ++ '-' :: numbers) literal numbers
  | numbers (numbers : List Char) : Parts numbers [] numbers

/-- The literal part of a text that decodes is ASCII, and the numbers do the rest. -/
theorem decode?_eq_some (decodes : decode? text = some decoded) :
    ∃ literal numbers, Parts text literal numbers ∧ IsAscii literal ∧
      decodeNumbers { output := literal, index := 0, code := 128, bias := 72 } none numbers =
        some decoded := by
  have parts (literal numbers : List Char) (made : Parts text literal numbers)
      (decodes : (if literal.all (·.toNat < 0x80) then
        decodeNumbers { output := literal, index := 0, code := 128, bias := 72 } none numbers
      else none) = some decoded) :
      ∃ literal numbers, Parts text literal numbers ∧ IsAscii literal ∧
        decodeNumbers { output := literal, index := 0, code := 128, bias := 72 } none numbers =
          some decoded := by
    split at decodes
    · rename_i isAscii
      exact ⟨literal, numbers, made, by simpa [IsAscii] using isAscii, decodes⟩
    · contradiction
  unfold decode? at decodes
  cases cut : splitLast? '-' text with
  | none =>
    rw [cut] at decodes
    exact parts [] text (.numbers text) decodes
  | some pieces =>
    obtain ⟨literal, numbers⟩ := pieces
    obtain ⟨textEq, last⟩ := splitLast?_eq_some_iff.mp cut
    cases literal with
    | nil =>
      rw [cut] at decodes
      exact parts [] text (.numbers text) decodes
    | cons head rest =>
      rw [cut] at decodes
      refine parts (head :: rest) numbers ?_ decodes
      rw [textEq]
      exact .literal (List.cons_ne_nil head rest) last

/-- Decoding neither makes nor removes an ASCII character that numbers are not written with, but
for the hyphen that ends the literal part. -/
theorem count_decode? {mark : Char} (isAscii : mark.toNat < 0x80)
    (noDigit : mark.isAlphanum = false) (notHyphen : mark ≠ '-')
    (decodes : decode? text = some decoded) : decoded.count mark = text.count mark := by
  obtain ⟨literal, numbers, parts, literalAscii, decodes⟩ := decode?_eq_some decodes
  have absent : mark ∉ numbers := by
    intro member
    rw [isAlphanum_of_decodeNumbers decodes mark member] at noDigit
    contradiction
  have kept : decoded.count mark = literal.count mark := by
    rw [← count_asciiPart isAscii, asciiPart_of_decodeNumbers (Nat.le_refl _) decodes,
      count_asciiPart isAscii]
  cases parts with
  | literal _ _ =>
    rw [kept, List.count_append, List.count_cons_of_ne (Ne.symm notHyphen),
      List.count_eq_zero.mpr absent, Nat.add_zero]
  | numbers _ => rw [kept, List.count_eq_zero.mpr absent, List.count_nil]

/-- A text that decodes to ASCII has no numbers: it is its literal part and a hyphen. -/
theorem eq_of_decode?_ascii (isAscii : IsAscii decoded) (occupied : decoded ≠ [])
    (decodes : decode? text = some decoded) : text = decoded ++ ['-'] := by
  obtain ⟨literal, numbers, parts, literalAscii, decodes⟩ := decode?_eq_some decodes
  have same : decoded = literal := by
    rw [← asciiPart_eq_self isAscii, asciiPart_of_decodeNumbers (Nat.le_refl _) decodes,
      asciiPart_eq_self literalAscii]
  have none : numbers = [] := by
    by_contra some
    have longer := (length_of_decodeNumbers decodes).2 some
    rw [same] at longer
    exact Nat.lt_irrefl _ longer
  cases parts with
  | literal _ _ => rw [same, none]
  | numbers _ => exact absurd same occupied

end OneHost.Text.Punycode
